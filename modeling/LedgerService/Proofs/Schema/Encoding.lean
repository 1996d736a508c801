import LedgerService.Proofs.Schema.Reading

/-!
# Writing, then reading

What a schema writes describes the value written (`Schema.describes_encode`), and so does its canonical form, which
puts the members of every object in the order of their keys: a value is described by any permutation of its members
(`Fields.Describes.perm`), and the keys are distinct. So a lossless schema reads back what it writes, from the text and
from the value (`Schema.readsBack`).
-/

namespace LedgerService

namespace Json

theorem canonicalItems_eq_map (items : List Json) : canonicalItems items = items.map canonical := by
  induction items with
  | nil => rfl
  | cons first others ih => rw [canonicalItems, ih, List.map_cons]

theorem insertSorted_perm {key : String} {sorted : List (String × Json)} (value : Json)
    (fresh : key ∉ sorted.map Prod.fst) : List.Perm (insertSorted key value sorted) ((key, value) :: sorted) := by
  induction sorted with
  | nil => exact .refl _
  | cons first others ih =>
      rw [List.map_cons, List.mem_cons, not_or] at fresh
      rw [insertSorted]
      split
      · exact .refl _
      · rw [if_neg fresh.1]
        exact ((ih fresh.2).cons first).trans (.swap _ _ _)

theorem canonicalMembers_perm {members sorted : List (String × Json)}
    (distinct : (sorted.map Prod.fst ++ members.map Prod.fst).Nodup) :
    List.Perm (canonicalMembers sorted members)
      (sorted ++ members.map fun member => (member.1, member.2.canonical)) := by
  induction members generalizing sorted with
  | nil => rw [canonicalMembers, List.map_nil, List.append_nil]
  | cons first others ih =>
      have fresh : first.1 ∉ sorted.map Prod.fst := by
        intro inside
        exact (List.nodup_append.mp distinct).2.2 _ inside _ (List.mem_cons_self) rfl
      have inserted := insertSorted_perm first.2.canonical fresh
      have moved : ((insertSorted first.1 first.2.canonical sorted).map Prod.fst ++ others.map Prod.fst).Nodup :=
        (((inserted.map Prod.fst).append_right _).trans List.perm_middle.symm).nodup_iff.mpr distinct
      rw [canonicalMembers, List.map_cons]
      exact (ih moved).trans ((inserted.append_right _).trans List.perm_middle.symm)

theorem canonical_ne_null {json : Json} (present : json ≠ .null) : json.canonical ≠ .null := by
  cases json with
  | null => exact absurd rfl present
  | array items => rw [canonical]; intro equal; cases equal
  | object members => rw [canonical]; intro equal; cases equal
  | _ => exact present

end Json

theorem Fields.Describes.perm {α : Type} {fields : Fields α} {members others : List (String × Json)} {values : α}
    (described : fields.Describes members values) (rearranged : List.Perm others members) :
    fields.Describes others values := by
  cases fields with
  | done =>
      rw [Fields.Describes] at described ⊢
      rw [described] at rearranged
      exact rearranged.eq_nil
  | field key presence schema rest =>
      rw [Fields.Describes] at described ⊢
      rcases described with ⟨own, rest⟩
      refine ⟨?_, rest.perm (rearranged.filter _)⟩
      have same := rearranged.filter fun member => member.1 == key
      rcases own with ⟨absent, missing⟩ | ⟨json, alone, ofValue⟩
      · left
        rw [absent] at same
        exact ⟨same.eq_nil, missing⟩
      · right
        rw [alone] at same
        exact ⟨json, same.eq_singleton, ofValue⟩

theorem Variants.Describes.perm {tag : String} {α : Type} {variants : Variants α}
    {members others : List (String × Json)} {value : α} (described : variants.Describes tag members value)
    (rearranged : List.Perm others members) : variants.Describes tag others value := by
  cases variants with
  | done => exact value.elim
  | bare name rest =>
      rcases value with ⟨⟩ | other
      · rw [Variants.Describes] at described ⊢
        rw [described] at rearranged
        exact rearranged.eq_singleton
      · rw [Variants.Describes] at described ⊢
        exact described.perm rearranged
  | fields name label fields rest =>
      rcases value with values | other
      · rw [Variants.Describes] at described ⊢
        have same := rearranged.filter fun member => member.1 == tag
        rw [described.1] at same
        exact ⟨same.eq_singleton, described.2.perm (rearranged.filter _)⟩
      · rw [Variants.Describes] at described ⊢
        exact described.perm rearranged

/-- Members of which at most one has a key have distinct keys if those without the key have. -/
theorem nodup_keys_of_split {members : List (String × Json)} {key : String}
    (few : (members.filter fun member => member.1 == key).length ≤ 1)
    (distinct : ((members.filter fun member => member.1 != key).map Prod.fst).Nodup) :
    (members.map Prod.fst).Nodup := by
  have parts := List.filter_append_perm (fun member : String × Json => member.1 == key) members
  rw [← (parts.map Prod.fst).nodup_iff, List.map_append, List.nodup_append]
  refine ⟨?_, distinct, ?_⟩
  · generalize (members.filter fun member => member.1 == key) = found at few
    rcases found with _ | ⟨one, _ | ⟨two, more⟩⟩
    · exact List.nodup_nil
    · exact List.nodup_singleton _
    · rw [List.length_cons, List.length_cons] at few
      omega
  · intro first own second other same
    rcases List.mem_map.mp own with ⟨one, inside, rfl⟩
    rcases List.mem_map.mp other with ⟨two, outside, rfl⟩
    have equal := beq_iff_eq.mp (List.mem_filter.mp inside).2
    have apart := (List.mem_filter.mp outside).2
    rw [← same, equal, beq_self_eq_true] at apart
    cases apart

theorem Fields.Describes.nodup {α : Type} {fields : Fields α} {members : List (String × Json)} {values : α}
    (described : fields.Describes members values) : (members.map Prod.fst).Nodup := by
  cases fields with
  | done =>
      rw [Fields.Describes] at described
      rw [described]
      exact List.nodup_nil
  | field key presence schema rest =>
      rw [Fields.Describes] at described
      apply nodup_keys_of_split _ described.2.nodup
      rcases described.1 with ⟨absent, -⟩ | ⟨json, alone, -⟩
      · rw [absent]
        exact Nat.zero_le 1
      · rw [alone]
        exact Nat.le_refl 1

theorem Variants.Describes.nodup {tag : String} {α : Type} {variants : Variants α} {members : List (String × Json)}
    {value : α} (described : variants.Describes tag members value) : (members.map Prod.fst).Nodup := by
  cases variants with
  | done => exact value.elim
  | bare name rest =>
      rcases value with ⟨⟩ | other
      · rw [Variants.Describes] at described
        rw [described]
        exact List.nodup_singleton _
      · rw [Variants.Describes] at described
        exact described.nodup
  | fields name label fields rest =>
      rcases value with values | other
      · rw [Variants.Describes] at described
        apply nodup_keys_of_split _ described.2.nodup
        rw [described.1]
        exact Nat.le_refl 1
      · rw [Variants.Describes] at described
        exact described.nodup

/-- A member with its value in canonical form. -/
def canonicalMember (member : String × Json) : String × Json := (member.1, member.2.canonical)

theorem filter_map_canonicalMember (wanted : String → Bool) (members : List (String × Json)) :
    ((members.map canonicalMember).filter fun member => wanted member.1) =
      (members.filter fun member => wanted member.1).map canonicalMember := by
  rw [List.filter_map]
  rfl

mutual

theorem Schema.Describes.canonical : {α : Type} → {schema : Schema α} → {json : Json} → {value : α} →
    schema.Describes json value → schema.Describes json.canonical value
  | _, .word32, _, _, described | _, .word64, _, _, described | _, .signed64, _, _, described
  | _, .boolean, _, _, described | _, .text, _, _, described | _, .choice _ _ _, _, _, described => by
      rw [Schema.Describes] at described ⊢
      rw [described]
      rfl
  | _, .optional inner, _, none, described => by
      rw [Schema.Describes] at described ⊢
      rw [described]
      rfl
  | _, .optional inner, _, some present, described => by
      rw [Schema.Describes] at described ⊢
      exact ⟨Json.canonical_ne_null described.1, described.2.canonical⟩
  | _, .list inner, _, values, described => by
      rw [Schema.Describes] at described ⊢
      rcases described with ⟨items, rfl, each⟩
      refine ⟨items.map Json.canonical, ?_, ?_⟩
      · rw [Json.canonical, Json.canonicalItems_eq_map]
      · rw [List.forall₂_map_left_iff]
        exact each.imp fun json value described => described.canonical
  | _, .record _ fields _ split, _, value, described => by
      rw [Schema.Describes] at described ⊢
      rcases described with ⟨members, rfl, each⟩
      refine ⟨_, by rw [Json.canonical], ?_⟩
      exact each.canonical.perm (Json.canonicalMembers_perm each.nodup)
  | _, .tagged _ tag variants _ split, _, value, described => by
      rw [Schema.Describes] at described ⊢
      rcases described with ⟨members, rfl, each⟩
      refine ⟨_, by rw [Json.canonical], ?_⟩
      exact each.canonical.perm (Json.canonicalMembers_perm each.nodup)

theorem Fields.Describes.canonical : {α : Type} → {fields : Fields α} → {members : List (String × Json)} →
    {values : α} →
    fields.Describes members values → fields.Describes (members.map canonicalMember) values
  | _, .done, _, _, described => by
      rw [Fields.Describes] at described ⊢
      rw [described, List.map_nil]
  | _, .field key presence schema rest, _, _, described => by
      rw [Fields.Describes] at described ⊢
      rw [filter_map_canonicalMember (· == key), filter_map_canonicalMember (· != key)]
      refine ⟨?_, described.2.canonical⟩
      rcases described.1 with ⟨absent, missing⟩ | ⟨json, alone, ofValue⟩
      · left
        rw [absent]
        exact ⟨rfl, missing⟩
      · right
        rw [alone]
        exact ⟨json.canonical, rfl, ofValue.canonical⟩

theorem Variants.Describes.canonical {tag : String} : {α : Type} → {variants : Variants α} →
    {members : List (String × Json)} → {value : α} → variants.Describes tag members value →
    variants.Describes tag (members.map canonicalMember) value
  | _, .done, _, value, _ => nomatch value
  | _, .bare name rest, _, .inl (), described => by
      rw [Variants.Describes] at described ⊢
      rw [described]
      simp [canonicalMember, Json.canonical]
  | _, .bare name rest, _, .inr other, described => by
      rw [Variants.Describes] at described ⊢
      exact described.canonical
  | _, .fields _ _ _ _, _, .inl values, described => by
      rw [Variants.Describes] at described ⊢
      rw [filter_map_canonicalMember (· == tag), filter_map_canonicalMember (· != tag), described.1]
      refine ⟨?_, described.2.canonical⟩
      simp [canonicalMember, Json.canonical]
  | _, .fields _ _ _ _, _, .inr other, described => by
      rw [Variants.Describes] at described ⊢
      exact described.canonical

end

theorem Schema.encode_ne_null {α : Type} {schema : Schema α} (neverNull : schema.NeverNull) (value : α) :
    schema.encode value ≠ .null := by
  cases schema with
  | optional inner => exact absurd neverNull id
  | _ =>
      rw [Schema.encode]
      intro equal
      cases equal

theorem Fields.mem_keys_of_mem_encode : {α : Type} → {fields : Fields α} → {values : α} → {member : String × Json} →
    member ∈ fields.encode values → member.1 ∈ fields.keys
  | _, .done, _, _, inside => by
      rw [Fields.encode] at inside
      cases inside
  | _, .field key presence schema rest, values, member, inside => by
      rw [Fields.encode] at inside
      rw [Fields.keys]
      split at inside
      · exact List.mem_cons_of_mem _ (mem_keys_of_mem_encode inside)
      · rcases List.mem_cons.mp inside with rfl | later
        · exact List.mem_cons_self
        · exact List.mem_cons_of_mem _ (mem_keys_of_mem_encode later)

theorem Fields.filter_encode_eq_nil {α : Type} {fields : Fields α} {key : String} (foreign : key ∉ fields.keys)
    (values : α) :
    ((fields.encode values).filter fun member => member.1 == key) = [] := by
  rw [List.filter_eq_nil_iff]
  intro member inside same
  rw [← beq_iff_eq.mp same] at foreign
  exact foreign (mem_keys_of_mem_encode inside)

theorem Fields.filter_encode_eq_self {α : Type} {fields : Fields α} {key : String} (foreign : key ∉ fields.keys)
    (values : α) :
    ((fields.encode values).filter fun member => member.1 != key) = fields.encode values := by
  rw [List.filter_eq_self]
  intro member inside
  rw [bne_iff_ne]
  rintro rfl
  exact foreign (mem_keys_of_mem_encode inside)

theorem Fields.filter_cons_encode {α : Type} {fields : Fields α} {key : String} (foreign : key ∉ fields.keys)
    (json : Json) (values : α) :
    (((key, json) :: fields.encode values).filter fun member => member.1 == key) = [(key, json)] := by
  have own : (key == key) = true := beq_self_eq_true key
  rw [List.filter_cons, if_pos own, filter_encode_eq_nil foreign]

theorem Fields.filter_cons_encode_other {α : Type} {fields : Fields α} {key : String} (foreign : key ∉ fields.keys)
    (json : Json) (values : α) :
    (((key, json) :: fields.encode values).filter fun member => member.1 != key) = fields.encode values := by
  have own : ¬(key != key) = true := by rw [bne_self_eq_false]; exact Bool.false_ne_true
  rw [List.filter_cons, if_neg own, filter_encode_eq_self foreign]

mutual

theorem Schema.describes_encode : {α : Type} → (schema : Schema α) → schema.Lossless → (value : α) →
    schema.Describes (schema.encode value) value
  | _, .word32, _, value | _, .word64, _, value | _, .signed64, _, value | _, .boolean, _, value
  | _, .text, _, value | _, .choice _ _ _, _, value => by
      rw [Schema.Describes, Schema.encode]
  | _, .optional inner, _, none => by
      rw [Schema.Describes, Schema.encode]
  | _, .optional inner, lossless, some present => by
      rw [Schema.Describes, Schema.encode]
      exact ⟨Schema.encode_ne_null lossless.2 present, inner.describes_encode lossless.1 present⟩
  | _, .list inner, lossless, values => by
      rw [Schema.Describes, Schema.encode]
      refine ⟨_, rfl, ?_⟩
      rw [List.forall₂_map_left_iff, List.forall₂_same]
      intro value _
      exact inner.describes_encode lossless value
  | _, .record _ fields _ split, lossless, value => by
      rw [Schema.Describes, Schema.encode]
      exact ⟨_, rfl, fields.describes_encode lossless.1 (split value)⟩
  | _, .tagged _ tag variants _ split, lossless, value => by
      rw [Schema.Describes, Schema.encode]
      exact ⟨_, rfl, variants.describes_encode lossless.1 (split value)⟩

theorem Fields.describes_encode : {α : Type} → (fields : Fields α) → fields.Lossless → (values : α) →
    fields.Describes (fields.encode values) values
  | _, .done, _, _ => by
      rw [Fields.Describes, Fields.encode]
  | _, .field key presence schema rest, lossless, (value, values) => by
      have others := rest.describes_encode lossless.2.2.2 values
      rw [Fields.Describes, Fields.encode]
      split
      case isTrue omitted =>
        rw [Fields.filter_encode_eq_nil lossless.1, Fields.filter_encode_eq_self lossless.1]
        exact ⟨.inl ⟨rfl, lossless.2.1 value omitted⟩, others⟩
      case isFalse written =>
        rw [Fields.filter_cons_encode lossless.1, Fields.filter_cons_encode_other lossless.1]
        exact ⟨.inr ⟨_, rfl, schema.describes_encode lossless.2.2.1 value⟩, others⟩

theorem Variants.describes_encode {tag : String} : {α : Type} → (variants : Variants α) → variants.Lossless tag →
    (value : α) → variants.Describes tag (variants.encode tag value) value
  | _, .done, _, value => nomatch value
  | _, .bare name rest, _, .inl () => by
      rw [Variants.Describes, Variants.encode]
  | _, .bare name rest, lossless, .inr other => by
      rw [Variants.Describes, Variants.encode]
      exact rest.describes_encode lossless other
  | _, .fields name label fields rest, lossless, .inl values => by
      rw [Variants.Describes, Variants.encode]
      rw [Fields.filter_cons_encode lossless.1, Fields.filter_cons_encode_other lossless.1]
      exact ⟨rfl, fields.describes_encode lossless.2.1 values⟩
  | _, .fields name label fields rest, lossless, .inr other => by
      rw [Variants.Describes, Variants.encode]
      exact rest.describes_encode lossless.2.2 other

end

namespace Schema

variable {α : Type}

theorem decode_encode {schema : Schema α} (lossless : schema.Lossless) (value : α) :
    schema.decode (schema.encode value) = .ok value :=
  decode_of_describes lossless (schema.describes_encode lossless value)

/-- The value is read from its text and from its JSON value, with the members as written or sorted by key. -/
structure ReadsBack (schema : Schema α) (value : α) : Prop where
  ofText : schema.parse (schema.write value) = .ok value
  ofSortedText : schema.parse (schema.encode value).canonical.compact = .ok value
  ofJson : schema.decode (schema.encode value) = .ok value
  ofSortedJson : schema.decode (schema.encode value).canonical = .ok value

theorem readsBack (schema : Schema α) (lossless : schema.Lossless) (shallow : schema.depth < Json.levelLimit)
    (value : α) :
    schema.ReadsBack value := by
  have described := schema.describes_encode lossless value
  exact ⟨parse_of_describes lossless shallow described, parse_of_describes lossless shallow described.canonical,
    decode_of_describes lossless described, decode_of_describes lossless described.canonical⟩

end Schema

end LedgerService
