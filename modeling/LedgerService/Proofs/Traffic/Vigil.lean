import LedgerService.Proofs.Traffic.Promptness

/-!
# Vigils

What one governor makes of one call. Inside the governor the call ends at some instant, or not yet; outside, it ends
then or at the governor's limit, whichever comes first. `Vigil` relates the two, and what the governor has counted, and
holds at every instant. Once everything that is due has happened, it determines what has been counted
(`Vigil.expired_iff`, `Vigil.warned_iff`), and what is told outside of two governors of which one lies inside the other
(`Vigil.nested_iff`).
-/

namespace LedgerService

namespace Governor

variable {governor : Governor} {arrival : Nat}

theorem mem_expireAt? {instant : Nat} :
    instant ∈ governor.expireAt? arrival ↔
      governor.limit ≠ .zero ∧ instant = arrival + governor.limit.nanoseconds := by
  rw [Option.mem_def, expireAt?, Option.ite_none_right_eq_some, Option.some.injEq, eq_comm (b := instant)]
  simp only [hasLimit, decide_eq_true_eq]

theorem mem_warnAt? {instant : Nat} :
    instant ∈ governor.warnAt? arrival ↔
      (governor.warning ≠ .zero ∧
        (governor.limit ≠ .zero → governor.warning.nanoseconds < governor.limit.nanoseconds)) ∧
          instant = arrival + governor.warning.nanoseconds := by
  rw [Option.mem_def, warnAt?, Option.ite_none_right_eq_some, Option.some.injEq, eq_comm (b := instant)]
  simp only [hasWarning, hasLimit, Bool.and_eq_true, Bool.or_eq_true, Bool.not_eq_true', decide_eq_true_eq,
    decide_eq_false_iff_not, imp_iff_not_or]

theorem lt_of_warnAt?_of_expireAt? {threshold limit : Nat} (warns : threshold ∈ governor.warnAt? arrival)
    (expires : limit ∈ governor.expireAt? arrival) : threshold < limit := by
  rcases mem_warnAt?.mp warns with ⟨⟨-, below⟩, rfl⟩
  rcases mem_expireAt?.mp expires with ⟨limited, rfl⟩
  exact Nat.add_lt_add_left (below limited) arrival

/-- The call has ended as it did inside, and in time; or it has not before the limit, and the governor has given up. -/
def Tells (governor : Governor) (arrival expired : Nat) (inside : Nat → Ending → Prop) (instant : Nat)
    (ending : Ending) : Prop :=
  expired = 0 ∧ (∃ result, inside instant result ∧ ending = result.contained governor.resource) ∧
      (∀ limit ∈ governor.expireAt? arrival, instant ≤ limit) ∨
    expired = 1 ∧ instant ∈ governor.expireAt? arrival ∧ ending = .answered (.error governor.refusal) ∧
      ∀ other result, inside other result → instant ≤ other

/-- The call may have ended inside by now. -/
theorem Tells.later {expired instant now : Nat} {ending : Ending} {inside inside' : Nat → Ending → Prop}
    (tells : governor.Tells arrival expired inside instant ending) (past : instant ≤ now)
    (kept : ∀ instant ending, inside instant ending → inside' instant ending)
    (new : ∀ instant ending, inside' instant ending → inside instant ending ∨ instant = now) :
    governor.Tells arrival expired inside' instant ending := by
  rcases tells with ⟨zero, ⟨result, within, contained⟩, inTime⟩ | ⟨one, limit, refused, before⟩
  · exact .inl ⟨zero, ⟨result, kept instant result within, contained⟩, inTime⟩
  · refine .inr ⟨one, limit, refused, fun other result within => ?_⟩
    rcases new other result within with old | rfl
    · exact before other result old
    · exact past

end Governor

/--
What a governor makes of a call that came to it at some instant: the endings inside and outside of it with their
instants, and how often it has warned and given up by now.
-/
structure Vigil (governor : Governor) (arrival now warned expired : Nat) (inside outside : Nat → Ending → Prop) :
    Prop where
  told : ∀ instant ending, outside instant ending →
    instant ≤ now ∧ governor.Tells arrival expired inside instant ending
  untold : (∀ instant ending, ¬ outside instant ending) → expired = 0
  /-- The governor has not warned and had no reason to, or it has warned once before the call ended inside. -/
  warned : warned = 0 ∧
      (∀ instant ending, outside instant ending → ∀ threshold ∈ governor.warnAt? arrival, instant ≤ threshold) ∨
    warned = 1 ∧ ∃ threshold ∈ governor.warnAt? arrival, threshold ≤ now ∧
      ∀ other result, inside other result → threshold ≤ other

namespace Vigil

variable {governor : Governor} {arrival now warned expired : Nat} {inside outside outside' : Nat → Ending → Prop}

theorem start (governor : Governor) (arrival now : Nat) (untold : ∀ instant ending, ¬ outside instant ending) :
    Vigil governor arrival now 0 0 inside outside where
  told instant ending told := absurd told (untold instant ending)
  untold _ := rfl
  warned := .inl ⟨rfl, fun instant ending told => absurd told (untold instant ending)⟩

/-- Time passes, and then the call may end inside. -/
theorem later (vigil : Vigil governor arrival now warned expired inside outside) {instant : Nat}
    {inside' : Nat → Ending → Prop} (later : now ≤ instant)
    (kept : ∀ instant ending, inside instant ending → inside' instant ending)
    (new : ∀ other ending, inside' other ending → inside other ending ∨ other = instant) :
    Vigil governor arrival instant warned expired inside' outside where
  told other ending told := by
    rcases vigil.told other ending told with ⟨past, tells⟩
    exact ⟨past.trans later, tells.later (past.trans later) kept new⟩
  untold := vigil.untold
  warned := by
    rcases vigil.warned with never | ⟨one, threshold, warns, past, before⟩
    · exact .inl never
    · refine .inr ⟨one, threshold, warns, past.trans later, fun other result within => ?_⟩
      rcases new other result within with old | rfl
      · exact before other result old
      · exact past.trans later

/-- The governor warns. -/
theorem warn (vigil : Vigil governor arrival now 0 expired inside outside) {threshold : Nat}
    (warns : threshold ∈ governor.warnAt? arrival) (reached : threshold ≤ now)
    (before : ∀ other result, inside other result → now ≤ other) :
    Vigil governor arrival now 1 expired inside outside where
  told := vigil.told
  untold := vigil.untold
  warned := .inr ⟨rfl, threshold, warns, reached, fun other result within => reached.trans (before other result within)⟩

/-- What becomes of the call is told outside. -/
theorem tell (vigil : Vigil governor arrival now warned expired inside outside)
    (untold : ∀ instant ending, ¬ outside instant ending) {expired' : Nat} {ending : Ending}
    (tells : governor.Tells arrival expired' inside now ending)
    (unwarned : warned = 0 → ∀ threshold ∈ governor.warnAt? arrival, now ≤ threshold)
    (new : ∀ instant result, outside' instant result ↔ outside instant result ∨ instant = now ∧ result = ending) :
    Vigil governor arrival now warned expired' inside outside' where
  told instant result told := by
    rcases (new instant result).mp told with old | ⟨rfl, rfl⟩
    · exact absurd old (untold instant result)
    · exact ⟨le_rfl, tells⟩
  untold nothing := absurd ((new now ending).mpr (.inr ⟨rfl, rfl⟩)) (nothing now ending)
  warned := by
    rcases vigil.warned with ⟨zero, -⟩ | once
    · refine .inl ⟨zero, fun instant result told => ?_⟩
      rcases (new instant result).mp told with old | ⟨rfl, -⟩
      · exact absurd old (untold instant result)
      · exact unwarned zero
    · exact .inr once

/-- The call has neither ended nor been given up on, and nothing that the governor has in mind for it is due. -/
structure Open (governor : Governor) (arrival now warned : Nat) (inside outside : Nat → Ending → Prop) : Prop where
  inside : ∀ instant ending, ¬ inside instant ending
  outside : ∀ instant ending, ¬ outside instant ending
  limit : ∀ limit ∈ governor.expireAt? arrival, now < limit
  warning : warned = 0 → ∀ threshold ∈ governor.warnAt? arrival, now < threshold

/-- Everything that is due has happened. -/
def Settled (governor : Governor) (arrival now warned : Nat) (inside outside : Nat → Ending → Prop) : Prop :=
  Open governor arrival now warned inside outside ∨ ∃ instant ending, outside instant ending

theorem expired_le (vigil : Vigil governor arrival now warned expired inside outside) : expired ≤ 1 := by
  by_cases told : ∃ instant ending, outside instant ending
  · rcases told with ⟨instant, ending, told⟩
    rcases (vigil.told instant ending told).2 with ⟨zero, -⟩ | ⟨one, -⟩ <;> omega
  · rw [vigil.untold (by simpa using told)]
    exact Nat.zero_le 1

/-- A call that ends before the threshold is not warned of. -/
theorem unwarned_of_early (vigil : Vigil governor arrival now warned expired inside outside)
    (early : ∀ threshold ∈ governor.warnAt? arrival, ∃ instant ending, inside instant ending ∧ instant < threshold) :
    warned = 0 := by
  rcases vigil.warned with ⟨zero, -⟩ | ⟨-, threshold, warns, -, before⟩
  · exact zero
  · rcases early threshold warns with ⟨instant, ending, within, first⟩
    exact absurd (before instant ending within) (Nat.not_le.mpr first)

theorem warned_le (vigil : Vigil governor arrival now warned expired inside outside) : warned ≤ 1 := by
  rcases vigil.warned with ⟨zero, -⟩ | ⟨one, -⟩ <;> omega

section

variable (vigil : Vigil governor arrival now warned expired inside outside)
  (settled : Settled governor arrival now warned inside outside)

include vigil settled

/-- A call that ends before the limit ends outside as it does inside. -/
theorem outside_of_early
    (once : ∀ instant ending other result, inside instant ending → inside other result → instant = other ∧ ending = result)
    {instant : Nat} {result : Ending} (within : inside instant result)
    (early : ∀ limit ∈ governor.expireAt? arrival, instant < limit) :
    outside instant (result.contained governor.resource) ∧ expired = 0 := by
  rcases settled with waiting | ⟨other, ending, told⟩
  · exact absurd within (waiting.inside instant result)
  · rcases (vigil.told other ending told).2 with ⟨zero, ⟨again, within', rfl⟩, -⟩ | ⟨-, limit, -, before⟩
    · rcases once _ _ _ _ within within' with ⟨rfl, rfl⟩
      exact ⟨told, zero⟩
    · have first := before instant result within
      have second := early other limit
      omega

/-- A call that has not ended by the limit ends outside with a refusal. -/
theorem outside_of_late {limit : Nat} (limits : limit ∈ governor.expireAt? arrival) (reached : limit ≤ now)
    (late : ∀ instant result, inside instant result → limit < instant) :
    outside limit (.answered (.error governor.refusal)) ∧ expired = 1 := by
  rcases settled with waiting | ⟨instant, ending, told⟩
  · have early := waiting.limit limit limits
    omega
  · rcases (vigil.told instant ending told).2 with ⟨-, ⟨result, within, -⟩, inTime⟩ | ⟨one, limit', rfl, -⟩
    · have first := late instant result within
      have second := inTime limit limits
      omega
    · rcases Option.mem_unique limits limit' with rfl
      exact ⟨told, one⟩

theorem warned_of_late {threshold : Nat} (warns : threshold ∈ governor.warnAt? arrival) (reached : threshold ≤ now)
    (late : ∀ instant result, inside instant result → threshold < instant) : warned = 1 := by
  rcases vigil.warned with ⟨zero, inTime⟩ | ⟨one, -⟩
  · rcases settled with waiting | ⟨instant, ending, told⟩
    · have early := waiting.warning zero threshold warns
      omega
    · have soon := inTime instant ending told threshold warns
      rcases (vigil.told instant ending told).2 with ⟨-, ⟨result, within, -⟩, -⟩ | ⟨-, limit, -⟩
      · have first := late instant result within
        omega
      · have first := Governor.lt_of_warnAt?_of_expireAt? warns limit
        omega
  · exact one

/-- A governor gives up on a call just if its refusal is what is told, where the call itself does not end so. -/
theorem expired_iff_refusal
    (apart : ∀ instant result, inside instant result →
      result.contained governor.resource ≠ .answered (.error governor.refusal)) :
    expired = 1 ↔ ∃ instant, outside instant (.answered (.error governor.refusal)) := by
  constructor
  · intro one
    rcases settled with waiting | ⟨instant, ending, told⟩
    · have zero := vigil.untold waiting.outside
      omega
    · rcases (vigil.told instant ending told).2 with ⟨zero, -⟩ | ⟨-, -, rfl, -⟩
      · omega
      · exact ⟨instant, told⟩
  · rintro ⟨instant, told⟩
    rcases (vigil.told instant _ told).2 with ⟨-, ⟨result, within, same⟩, -⟩ | ⟨one, -⟩
    · exact absurd same.symm (apart instant result within)
    · exact one

/-- A governor gives up on a call just if the call has not ended before the limit. -/
theorem expired_iff (apart : ∀ instant ending, inside instant ending → instant ∉ governor.expireAt? arrival) :
    expired = 1 ↔ ∃ limit ∈ governor.expireAt? arrival, limit ≤ now ∧
      ∀ instant ending, inside instant ending → limit < instant := by
  constructor
  · intro one
    rcases settled with waiting | ⟨instant, ending, told⟩
    · have zero := vigil.untold waiting.outside
      omega
    · rcases vigil.told instant ending told with ⟨past, ⟨zero, -⟩ | ⟨-, limit, -, before⟩⟩
      · omega
      · refine ⟨instant, limit, past, fun other result within => ?_⟩
        apply lt_of_le_of_ne (before other result within)
        rintro rfl
        exact apart instant result within limit
  · rintro ⟨limit, limits, reached, late⟩
    exact (vigil.outside_of_late settled limits reached late).2

/-- A governor warns of a call just if the call has not ended before the threshold. -/
theorem warned_iff (apart : ∀ instant ending, inside instant ending → instant ∉ governor.warnAt? arrival) :
    warned = 1 ↔ ∃ threshold ∈ governor.warnAt? arrival, threshold ≤ now ∧
      ∀ instant ending, inside instant ending → threshold < instant := by
  constructor
  · intro one
    rcases vigil.warned with ⟨zero, -⟩ | ⟨-, threshold, warns, past, before⟩
    · omega
    · refine ⟨threshold, warns, past, fun other result within => ?_⟩
      apply lt_of_le_of_ne (before other result within)
      rintro rfl
      exact apart threshold result within warns
  · rintro ⟨threshold, warns, reached, late⟩
    exact vigil.warned_of_late settled warns reached late

/-- What comes before anything is told outside comes before the call ends inside, and before the limit. -/
theorem before_iff (once : ∀ instant ending other result, inside instant ending → inside other result → instant = other)
    {early : Nat} (past : early ≤ now) :
    (∀ instant ending, outside instant ending → early < instant) ↔
      (∀ instant ending, inside instant ending → early < instant) ∧
        ∀ limit ∈ governor.expireAt? arrival, early < limit := by
  constructor
  · intro before
    rcases settled with waiting | ⟨instant, ending, told⟩
    · refine ⟨fun instant ending within => absurd within (waiting.inside instant ending), fun limit limits => ?_⟩
      exact lt_of_le_of_lt past (waiting.limit limit limits)
    · have first := before instant ending told
      rcases (vigil.told instant ending told).2 with ⟨-, ⟨result, within, -⟩, inTime⟩ | ⟨-, limit, -, least⟩
      · refine ⟨fun other end' inside => ?_, fun limit limits => lt_of_lt_of_le first (inTime limit limits)⟩
        rwa [← once _ _ _ _ within inside]
      · refine ⟨fun other end' inside => lt_of_lt_of_le first (least other end' inside), fun other limits => ?_⟩
        rwa [← Option.some.inj (limit.symm.trans limits)]
  · rintro ⟨before, limited⟩ instant ending told
    rcases (vigil.told instant ending told).2 with ⟨-, ⟨result, within, -⟩, -⟩ | ⟨-, limit, -⟩
    · exact before instant result within
    · exact limited instant limit

end

section

variable {inner outer : Governor} {middle : Nat → Ending → Prop} {warned' expired' : Nat}

/-- What may be told outside of two nested governors by now: the ending inside, or the refusal of one of the two. -/
inductive Contends (inner outer : Governor) (arrival now : Nat) (inside : Nat → Ending → Prop) : Nat → Ending → Prop
  | ended {instant ending} (within : inside instant ending) :
      Contends inner outer arrival now inside instant ((ending.contained inner.resource).contained outer.resource)
  | inner {limit} (limits : limit ∈ inner.expireAt? arrival) (reached : limit ≤ now) :
      Contends inner outer arrival now inside limit (.answered (.error inner.refusal))
  | outer {limit} (limits : limit ∈ outer.expireAt? arrival) (reached : limit ≤ now) :
      Contends inner outer arrival now inside limit (.answered (.error outer.refusal))

variable (first : Vigil inner arrival now warned expired inside middle)
  (second : Vigil outer arrival now warned' expired' middle outside)
  (settled : Settled inner arrival now warned inside middle)
  (settled' : Settled outer arrival now warned' middle outside)
  (once : ∀ instant ending other result, inside instant ending → inside other result → instant = other)

include first second settled once in
/-- What is told outside of two nested governors comes first. -/
theorem least_of_outside {instant : Nat} {ending : Ending} (told : outside instant ending) :
    Contends inner outer arrival now inside instant ending ∧
      ∀ other result, Contends inner outer arrival now inside other result → instant ≤ other := by
  rcases second.told instant ending told with ⟨past, ⟨-, ⟨result, mid, rfl⟩, limited'⟩ | ⟨-, limit, rfl, least⟩⟩
  · rcases (first.told instant result mid).2 with ⟨-, ⟨actual, within, rfl⟩, limited⟩ | ⟨-, limit, rfl, least⟩
    · refine ⟨.ended within, fun other result contends => ?_⟩
      cases contends with
      | ended within' => exact Nat.le_of_eq (once _ _ _ _ within within')
      | inner limits => exact limited other limits
      | outer limits => exact limited' other limits
    · refine ⟨.inner limit past, fun other result contends => ?_⟩
      cases contends with
      | ended within => exact least other _ within
      | inner limits => exact Nat.le_of_eq (Option.some.inj (limit.symm.trans limits))
      | outer limits => exact limited' other limits
  · refine ⟨.outer limit past, fun other result contends => ?_⟩
    rcases settled with waiting | ⟨instant', ending', mid⟩
    · cases contends with
      | ended within => exact absurd within (waiting.inside _ _)
      | inner limits reached => exact absurd (waiting.limit other limits) (Nat.not_lt.mpr reached)
      | outer limits => exact Nat.le_of_eq (Option.some.inj (limit.symm.trans limits))
    · have before := least instant' ending' mid
      rcases (first.told instant' ending' mid).2 with ⟨-, ⟨actual, within, -⟩, limited⟩ | ⟨-, limit', -, least'⟩
      · cases contends with
        | ended within' => exact before.trans (Nat.le_of_eq (once _ _ _ _ within within'))
        | inner limits => exact before.trans (limited other limits)
        | outer limits => exact Nat.le_of_eq (Option.some.inj (limit.symm.trans limits))
      · cases contends with
        | ended within => exact before.trans (least' other _ within)
        | inner limits => exact before.trans (Nat.le_of_eq (Option.some.inj (limit'.symm.trans limits)))
        | outer limits => exact Nat.le_of_eq (Option.some.inj (limit.symm.trans limits))

include settled settled' in
theorem exists_outside {instant : Nat} {ending : Ending}
    (contends : Contends inner outer arrival now inside instant ending) : ∃ instant ending, outside instant ending := by
  by_contra nothing
  have waiting' := settled'.resolve_right nothing
  have waiting := settled.resolve_right fun ⟨instant, ending, mid⟩ => waiting'.inside instant ending mid
  cases contends with
  | ended within => exact waiting.inside _ _ within
  | inner limits reached => exact absurd (waiting.limit _ limits) (Nat.not_lt.mpr reached)
  | outer limits reached => exact absurd (waiting'.limit _ limits) (Nat.not_lt.mpr reached)

include first second settled settled' once in
/-- Two nested governors act as one with the earlier deadline. -/
theorem nested_iff
    (apart : ∀ {instant ending result}, Contends inner outer arrival now inside instant ending →
      Contends inner outer arrival now inside instant result → ending = result)
    {instant : Nat} {ending : Ending} :
    outside instant ending ↔ Contends inner outer arrival now inside instant ending ∧
      ∀ other result, Contends inner outer arrival now inside other result → instant ≤ other := by
  refine ⟨least_of_outside first second settled once, fun ⟨contends, least⟩ => ?_⟩
  rcases exists_outside settled settled' contends with ⟨instant', ending', told⟩
  rcases least_of_outside first second settled once told with ⟨contends', least'⟩
  rcases Nat.le_antisymm (least _ _ contends') (least' _ _ contends) with rfl
  rcases apart contends contends' with rfl
  exact told

end

end Vigil

end LedgerService
