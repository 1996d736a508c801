import LedgerService.Proofs.Json.RoundTrip
import LedgerService.Schema.Encode
import LedgerService.Schema.Read

/-!
# What a JSON value describes

A JSON value describes a typed one if it is what the schema writes for it, with the members of every object in any
order (`Schema.Describes`). Such a value is nested no deeper than the schema and can be read back from its text
(`Schema.readable_of_describes`). A schema is lossless if what it writes determines the value; whether it is can be
checked field by field (`Schema.Lossless`).
-/

namespace LedgerService

open Json (Readable)

mutual

/-- The JSON value describes the typed one as it is written, with the members of objects in any order. -/
def Schema.Describes : {α : Type} → Schema α → Json → α → Prop
  | _, .word32, json, value => json = .integer value.toNat
  | _, .word64, json, value => json = .integer value.toNat
  | _, .signed64, json, value => json = .integer value.toInt
  | _, .boolean, json, value => json = .boolean value
  | _, .text, json, value => json = .text value
  | _, .optional inner, json, value =>
    match value with
    | none => json = .null
    | some present => json ≠ .null ∧ inner.Describes json present
  | _, .list inner, json, values => ∃ items, json = .array items ∧ List.Forall₂ inner.Describes items values
  | _, .record _ fields _ split, json, value =>
    ∃ members, json = .object members ∧ fields.Describes members (split value)
  | _, .choice _ _ toName, json, value => json = .text (toName value)
  | _, .tagged _ tag variants _ split, json, value =>
    ∃ members, json = .object members ∧ variants.Describes tag members (split value)

/-- The members describe the fields, each of which has one member unless it may be left out. -/
def Fields.Describes : {α : Type} → Fields α → List (String × Json) → α → Prop
  | _, .done, members, _ => members = []
  | _, .field key presence schema rest, members, values =>
    ((members.filter fun member => member.1 == key) = [] ∧ presence.whenMissing = some values.1 ∨
      ∃ json, (members.filter fun member => member.1 == key) = [(key, json)] ∧ schema.Describes json values.1) ∧
    rest.Describes (members.filter fun member => member.1 != key) values.2

def Variants.Describes (tag : String) : {α : Type} → Variants α → List (String × Json) → α → Prop
  | _, .done, _, value => nomatch value
  | _, .bare name rest, members, value =>
    match value with
    | .inl () => members = [(tag, .text name)]
    | .inr other => rest.Describes tag members other
  | _, .fields name _ fields rest, members, value =>
    match value with
    | .inl values =>
      (members.filter fun member => member.1 == tag) = [(tag, .text name)] ∧
        fields.Describes (members.filter fun member => member.1 != tag) values
    | .inr other => rest.Describes tag members other

end


/-- The fields that the members give, when the members are those of the values. -/
def Fields.filled : {α : Type} → (fields : Fields α) → α → List (String × Json) → fields.Slots
  | _, .done, _, _ => ()
  | _, .field key _ _ rest, values, members =>
    (if members.any fun member => member.1 == key then some values.1 else Option.none,
      rest.filled values.2 (members.filter fun member => member.1 != key))

/-- Values of the schema are never written as null. -/
def Schema.NeverNull : {α : Type} → Schema α → Prop
  | _, .optional _ => False
  | _, _ => True

mutual

/-- What is written determines the value. -/
def Schema.Lossless : {α : Type} → Schema α → Prop
  | _, .word32 | _, .word64 | _, .signed64 | _, .boolean | _, .text => True
  | _, .optional inner => inner.Lossless ∧ inner.NeverNull
  | _, .list inner => inner.Lossless
  | _, .record _ fields build split => fields.Lossless ∧ ∀ value, build (split value) = value
  | _, .choice _ ofName toName => ∀ value, ofName (toName value) = some value
  | _, .tagged _ tag variants build split =>
    variants.Lossless tag ∧ variants.names.Nodup ∧ ∀ value, build (split value) = value

def Fields.Lossless : {α : Type} → Fields α → Prop
  | _, .done => True
  | _, .field key presence schema rest =>
    key ∉ rest.keys ∧ (∀ value, presence.omitted value = true → presence.whenMissing = some value) ∧
      schema.Lossless ∧ rest.Lossless

def Variants.Lossless (tag : String) : {α : Type} → Variants α → Prop
  | _, .done => True
  | _, .bare _ rest => rest.Lossless tag
  | _, .fields _ _ fields rest => tag ∉ fields.keys ∧ fields.Lossless ∧ rest.Lossless tag

end

namespace Fields

theorem filled_nil : {α : Type} → (fields : Fields α) → (values : α) → fields.filled values [] = fields.none
  | _, .done, _ => rfl
  | _, .field _ _ _ rest, values => by
      rw [filled, Fields.none, List.filter_nil, rest.filled_nil values.2]
      rfl

theorem any_key_eq_true {members : List (String × Json)} {key : String} {json : Json}
    (own : (members.filter fun member => member.1 == key) = [(key, json)]) :
    (members.any fun member => member.1 == key) = true := by
  rw [List.any_eq_true]
  have inside : (key, json) ∈ members.filter fun member => member.1 == key := by
    rw [own]
    exact List.mem_singleton_self _
  exact ⟨(key, json), (List.mem_filter.mp inside).1, (List.mem_filter.mp inside).2⟩

theorem any_key_eq_false {members : List (String × Json)} {key : String}
    (absent : (members.filter fun member => member.1 == key) = []) :
    (members.any fun member => member.1 == key) = false := by
  rw [List.filter_eq_nil_iff] at absent
  rw [List.any_eq_false]
  exact absent

theorem complete_filled : {α : Type} → (fields : Fields α) → {members : List (String × Json)} → {values : α} →
    fields.Describes members values → fields.complete (fields.filled values members) = .ok values
  | _, .done, _, _, _ => rfl
  | _, .field key presence schema rest, members, (value, values), described => by
      rw [Describes] at described
      rcases described with ⟨own, others⟩
      rw [complete, filled]
      have completed := rest.complete_filled others
      rcases own with ⟨absent, missing⟩ | ⟨json, alone, -⟩
      · rw [any_key_eq_false absent, if_neg Bool.false_ne_true]
        dsimp only
        rw [Option.none_or, missing, completed]
        rfl
      · rw [any_key_eq_true alone, if_pos rfl]
        dsimp only
        rw [Option.some_or, completed]
        rfl

end Fields

theorem Json.Readable.mono {depth : Nat} {json : Json} (readable : json.Readable depth) {deeper : Nat}
    (least : depth ≤ deeper) :
    json.Readable deeper := by
  induction readable generalizing deeper with
  | null => exact .null
  | boolean value => exact .boolean value
  | integer fits => exact .integer fits
  | text value => exact .text value
  | array inside ih =>
      rcases Nat.exists_eq_add_of_le' least with ⟨more, rfl⟩
      exact .array fun item member => ih item member (Nat.le_add_left _ _)
  | object inside ih =>
      rcases Nat.exists_eq_add_of_le' least with ⟨more, rfl⟩
      exact .object fun one member => ih one member (Nat.le_add_left _ _)

mutual

def Schema.depth : {α : Type} → Schema α → Nat
  | _, .word32 | _, .word64 | _, .signed64 | _, .boolean | _, .text | _, .choice _ _ _ => 0
  | _, .optional inner => inner.depth
  | _, .list inner => inner.depth + 1
  | _, .record _ fields _ _ => fields.depth + 1
  | _, .tagged _ _ variants _ _ => variants.depth + 1

def Fields.depth : {α : Type} → Fields α → Nat
  | _, .done => 0
  | _, .field _ _ schema rest => max schema.depth rest.depth

def Variants.depth : {α : Type} → Variants α → Nat
  | _, .done => 0
  | _, .bare _ rest => rest.depth
  | _, .fields _ _ fields rest => max fields.depth rest.depth

end

mutual

theorem Schema.readable_of_describes : {α : Type} → (schema : Schema α) → {json : Json} → {value : α} →
    schema.Describes json value → json.Readable schema.depth
  | _, .word32, _, value, described => by
      rw [Schema.Describes] at described
      rw [described]
      apply Readable.integer
      have greatest := value.toNat_lt
      simp only [Json.fits64, Word.least64, Word.unsigned64, UInt64.size, Bool.and_eq_true, decide_eq_true_eq]
      omega
  | _, .word64, _, value, described => by
      rw [Schema.Describes] at described
      rw [described]
      apply Readable.integer
      have greatest := value.toNat_lt
      simp only [Json.fits64, Word.least64, Word.unsigned64, UInt64.size, Bool.and_eq_true, decide_eq_true_eq]
      omega
  | _, .signed64, _, value, described => by
      rw [Schema.Describes] at described
      rw [described]
      apply Readable.integer
      have least := value.le_toInt
      have greatest := value.toInt_lt
      simp only [Json.fits64, Word.least64, Word.unsigned64, UInt64.size, Bool.and_eq_true, decide_eq_true_eq]
      omega
  | _, .boolean, _, value, described => by
      rw [Schema.Describes] at described
      rw [described]
      exact .boolean value
  | _, .text, _, value, described => by
      rw [Schema.Describes] at described
      rw [described]
      exact .text value
  | _, .optional inner, _, none, described => by
      rw [Schema.Describes] at described
      rw [described]
      exact .null
  | _, .optional inner, _, some present, described => by
      rw [Schema.Describes] at described
      rw [Schema.depth]
      exact inner.readable_of_describes described.2
  | _, .list inner, _, values, described => by
      rw [Schema.Describes] at described
      rcases described with ⟨items, rfl, each⟩
      rw [Schema.depth]
      apply Readable.array
      intro item member
      induction each with
      | nil => cases member
      | cons first others ih =>
          rcases List.mem_cons.mp member with rfl | later
          · exact inner.readable_of_describes first
          · exact ih later
  | _, .record _ fields _ split, _, value, described => by
      rw [Schema.Describes] at described
      rcases described with ⟨members, rfl, each⟩
      rw [Schema.depth]
      exact .object (fields.readable_of_describes each)
  | _, .choice _ _ toName, _, value, described => by
      rw [Schema.Describes] at described
      rw [described]
      exact .text _
  | _, .tagged _ tag variants _ split, _, value, described => by
      rw [Schema.Describes] at described
      rcases described with ⟨members, rfl, each⟩
      rw [Schema.depth]
      exact .object (variants.readable_of_describes each)

theorem Fields.readable_of_describes : {α : Type} → (fields : Fields α) → {members : List (String × Json)} →
    {values : α} →
    fields.Describes members values → ∀ member ∈ members, member.2.Readable fields.depth
  | _, .done, _, _, described => by
      rw [Fields.Describes] at described
      simp [described]
  | _, .field key presence schema rest, members, values, described => by
      rw [Fields.Describes] at described
      rcases described with ⟨own, others⟩
      rw [Fields.depth]
      intro member inside
      by_cases same : member.1 = key
      · have found : member ∈ members.filter fun member => member.1 == key :=
          List.mem_filter.mpr ⟨inside, beq_iff_eq.mpr same⟩
        rcases own with ⟨absent, -⟩ | ⟨json, alone, ofValue⟩
        · rw [absent] at found
          cases found
        · rw [alone] at found
          rw [List.mem_singleton.mp found]
          exact (schema.readable_of_describes ofValue).mono (Nat.le_max_left _ _)
      · have found : member ∈ members.filter fun member => member.1 != key :=
          List.mem_filter.mpr ⟨inside, bne_iff_ne.mpr same⟩
        exact (rest.readable_of_describes others member found).mono (Nat.le_max_right _ _)

theorem Variants.readable_of_describes {tag : String} : {α : Type} → (variants : Variants α) →
    {members : List (String × Json)} → {value : α} → variants.Describes tag members value →
    ∀ member ∈ members, member.2.Readable variants.depth
  | _, .done, _, value, _ => nomatch value
  | _, .bare name rest, members, .inl (), described => by
      rw [Variants.Describes] at described
      simp [described, Readable.text]
  | _, .bare name rest, members, .inr other, described => by
      rw [Variants.Describes] at described
      rw [Variants.depth]
      exact rest.readable_of_describes described
  | _, .fields name label fields rest, members, .inl values, described => by
      rw [Variants.Describes] at described
      rw [Variants.depth]
      intro member inside
      by_cases same : member.1 = tag
      · have found : member ∈ members.filter fun member => member.1 == tag :=
          List.mem_filter.mpr ⟨inside, beq_iff_eq.mpr same⟩
        rw [described.1] at found
        rw [List.mem_singleton.mp found]
        exact .text name
      · have found : member ∈ members.filter fun member => member.1 != tag :=
          List.mem_filter.mpr ⟨inside, bne_iff_ne.mpr same⟩
        exact (fields.readable_of_describes described.2 member found).mono (Nat.le_max_left _ _)
  | _, .fields name label fields rest, members, .inr other, described => by
      rw [Variants.Describes] at described
      rw [Variants.depth]
      intro member inside
      exact (rest.readable_of_describes described member inside).mono (Nat.le_max_right _ _)

end
end LedgerService
