import LedgerService.Proofs.Rpc.Accounts
import LedgerService.Proofs.Traffic.Progress

/-!
# Deadlines

A call of a method is watched by two governors, that of its method and, around it, that of the server. They act as one
with the earlier deadline: `Timetable.governed_of_run` says what the caller is told and when, and what the two count,
for every call that no gate refuses, whatever else goes on. The governor of the method goes on counting when the
caller has long been answered by the governor of the server, or has gone away.
-/

namespace LedgerService

variable {σ : Type}

namespace Governor

variable {resource : String} {warning maximum : Duration} {meters : Option GovernorMeters} {arrival instant : Nat}

theorem mem_expireAt?_idle :
    instant ∈ (idle resource warning maximum meters).expireAt? arrival ↔
      maximum ≠ .zero ∧ instant = arrival + maximum.nanoseconds :=
  mem_expireAt?

theorem mem_warnAt?_idle :
    instant ∈ (idle resource warning maximum meters).warnAt? arrival ↔
      (warning ≠ .zero ∧ (maximum ≠ .zero → warning.nanoseconds < maximum.nanoseconds)) ∧
        instant = arrival + warning.nanoseconds :=
  mem_warnAt?

end Governor

/-- A method is reported as slow before its maximum. -/
theorem MethodLimits.warning_lt {limits : MethodLimits} (warns : limits.warning ≠ .zero) :
    limits.warning.nanoseconds < limits.maximum.nanoseconds := by
  have positive := Duration.nanoseconds_pos warns
  simp only [warning, Duration.third] at positive ⊢
  omega

namespace CallTimes

/-- The call lasted longer than a span of time that is not zero, and the span is over. -/
def Outlasts (times : CallTimes) (now : Nat) (span : Duration) : Prop :=
  span ≠ .zero ∧ times.arrival + span.nanoseconds ≤ now ∧
    ∀ instant ending, times.Tells .work instant ending → times.arrival + span.nanoseconds < instant

/-- The instants that matter to a call: the end of its handler, and the thresholds and limits that are not zero. -/
def instants (times : CallTimes) (own : MethodLimits) (all : GlobalLimits) : List Nat :=
  (times.told.filter fun told => told.1 = .work).map (fun told => told.2.1) ++
    ([own.warning, own.maximum, all.warning, all.maximum].filter (· ≠ .zero)).map fun span =>
      times.arrival + span.nanoseconds

/-- What may end a call of a method for its caller, and when: its handler, or one of the limits that are over. -/
inductive Contends (times : CallTimes) (now : Nat) (name : String) (own : MethodLimits) (all : GlobalLimits) :
    Nat → Ending → Prop where
  | ended {instant ending} (worked : times.Tells .work instant ending) :
      Contends times now name own all instant (ending.contained name)
  | own (limited : own.maximum ≠ .zero) (reached : times.arrival + own.maximum.nanoseconds ≤ now) :
      Contends times now name own all (times.arrival + own.maximum.nanoseconds)
        (.answered (.error (.durationExceeded name own.maximum)))
  | all (limited : all.maximum ≠ .zero) (reached : times.arrival + all.maximum.nanoseconds ≤ now) :
      Contends times now name own all (times.arrival + all.maximum.nanoseconds)
        (.answered (.error (.durationExceeded globalResource all.maximum)))

end CallTimes

/-- What the governor of a method has counted for a call: it goes by the end of the handler alone. -/
structure GovernedByMethod (now position : Nat) (own : MethodLimits) (times : CallTimes) (facts : List CallFact) :
    Prop where
  /-- Nobody is told twice. -/
  once : (times.told.map Prod.fst).Nodup
  warning : facts.count (.warned (position + 1)) ≤ 1 ∧
    (facts.count (.warned (position + 1)) = 1 ↔ times.Outlasts now own.warning)
  limit : facts.count (.expired (position + 1)) ≤ 1 ∧
    (facts.count (.expired (position + 1)) = 1 ↔ times.Outlasts now own.maximum)

/-- What the governor of the server has made of a call of a method: it goes by what comes first. -/
structure GovernedByServer (now : Nat) (name : String) (own : MethodLimits) (all : GlobalLimits) (times : CallTimes)
    (facts : List CallFact) : Prop where
  /-- The caller is told whatever comes first, at its instant. -/
  answered : ∀ instant ending, times.Tells (.caller times.caller) instant ending ↔
    times.Contends now name own all instant ending ∧
      ∀ other result, times.Contends now name own all other result → instant ≤ other
  warning : facts.count (.warned 0) ≤ 1 ∧
    (facts.count (.warned 0) = 1 ↔ times.Outlasts now all.warning ∧
      ∀ maximum ∈ [own.maximum, all.maximum], maximum ≠ .zero → all.warning.nanoseconds < maximum.nanoseconds)
  limit : facts.count (.expired 0) ≤ 1 ∧
    (facts.count (.expired 0) = 1 ↔ times.Outlasts now all.maximum ∧
      (own.maximum ≠ .zero → all.maximum.nanoseconds < own.maximum.nanoseconds))

theorem Ending.contained_contained (ending : Ending) (inner outer : String) :
    (ending.contained inner).contained outer = ending.contained inner := by
  cases ending <;> rfl

section

variable {now position : Nat} {name : String} {own : MethodLimits} {all : GlobalLimits} {times : CallTimes}

/-- The end of the handler comes at none of the thresholds and limits. -/
theorem CallTimes.ne_of_nodup (distinct : (times.instants own all).Nodup) {instant : Nat} {ending : Ending}
    (worked : times.Tells .work instant ending) {span : Duration}
    (mem : span ∈ [own.warning, own.maximum, all.warning, all.maximum]) (some : span ≠ .zero) :
    instant ≠ times.arrival + span.nanoseconds := by
  have apart := (List.nodup_append.mp distinct).2.2
  apply apart
  · exact List.mem_map.mpr ⟨_, List.mem_filter.mpr ⟨worked, by simp⟩, rfl⟩
  · exact List.mem_map.mpr ⟨span, List.mem_filter.mpr ⟨mem, by simpa using some⟩, rfl⟩

/-- The limit of the method is neither the limit of the server nor the threshold of its warning. -/
theorem CallTimes.maximum_ne_of_nodup (distinct : (times.instants own all).Nodup) (limited : own.maximum ≠ .zero) :
    (all.maximum ≠ .zero → own.maximum.nanoseconds ≠ all.maximum.nanoseconds) ∧
      (all.warning ≠ .zero → own.maximum.nanoseconds ≠ all.warning.nanoseconds) := by
  have spans := (List.nodup_append.mp distinct).2.1
  rw [List.Nodup, List.pairwise_map, List.pairwise_filter] at spans
  simp only [List.pairwise_cons, List.forall_mem_cons, decide_eq_true_eq] at spans
  rcases spans with ⟨-, ⟨warning, maximum, -⟩, -⟩
  exact ⟨fun other same => maximum limited other (by rw [same]),
    fun other same => warning limited other (by rw [same])⟩

variable {facts : List CallFact} {meters meters' : Option GovernorMeters} {middle : Nat → Ending → Prop}

/-- The handler of a call ends once. -/
theorem CallTimes.work_once (once : (times.told.map Prod.fst).Nodup) {instant other : Nat} {ending result : Ending}
    (worked : times.Tells .work instant ending) (again : times.Tells .work other result) :
    instant = other ∧ ending = result := by
  have same := List.inj_on_of_nodup_map once worked again rfl
  simpa using same

theorem contends_iff {instant : Nat} {ending : Ending} :
    Vigil.Contends (.idle name own.warning own.maximum meters) (.idle globalResource all.warning all.maximum meters')
        times.arrival now (times.Tells .work) instant ending ↔
      times.Contends now name own all instant ending := by
  constructor
  · intro contends
    cases contends with
    | ended worked =>
        rw [Ending.contained_contained]
        exact .ended worked
    | inner limits reached =>
        rcases Governor.mem_expireAt?_idle.mp limits with ⟨limited, rfl⟩
        exact .own limited reached
    | outer limits reached =>
        rcases Governor.mem_expireAt?_idle.mp limits with ⟨limited, rfl⟩
        exact .all limited reached
  · intro contends
    cases contends with
    | ended worked =>
        rw [← Ending.contained_contained _ name globalResource]
        exact .ended worked
    | own limited reached => exact .inner (Governor.mem_expireAt?_idle.mpr ⟨limited, rfl⟩) reached
    | all limited reached => exact .outer (Governor.mem_expireAt?_idle.mpr ⟨limited, rfl⟩) reached

/-- No two things may end a call at the same instant. -/
theorem CallTimes.Contends.eq_of_nodup (once : (times.told.map Prod.fst).Nodup)
    (distinct : (times.instants own all).Nodup) {instant other : Nat} {ending result : Ending}
    (one : times.Contends now name own all instant ending) (two : times.Contends now name own all other result)
    (same : instant = other) : ending = result := by
  have apart := CallTimes.maximum_ne_of_nodup distinct
  cases one with
  | ended worked =>
      cases two with
      | ended again => rw [(CallTimes.work_once once worked again).2]
      | own limited => exact absurd same (CallTimes.ne_of_nodup distinct worked (by simp) limited)
      | all limited => exact absurd same (CallTimes.ne_of_nodup distinct worked (by simp) limited)
  | own limited =>
      cases two with
      | ended worked => exact absurd same.symm (CallTimes.ne_of_nodup distinct worked (by simp) limited)
      | own => rfl
      | all other => exact absurd (Nat.add_left_cancel same) ((apart limited).1 other)
  | all limited =>
      cases two with
      | ended worked => exact absurd same.symm (CallTimes.ne_of_nodup distinct worked (by simp) limited)
      | own other => exact absurd (Nat.add_left_cancel same.symm) ((apart other).1 limited)
      | all => rfl

section

variable
  (first : Vigil (.idle name own.warning own.maximum meters) times.arrival now (facts.count (.warned (position + 1)))
    (facts.count (.expired (position + 1))) (times.Tells .work) middle)
  (second : Vigil (.idle globalResource all.warning all.maximum meters') times.arrival now (facts.count (.warned 0))
    (facts.count (.expired 0)) middle (times.Tells (.caller times.caller)))
  (settled : Vigil.Settled (.idle name own.warning own.maximum meters) times.arrival now
    (facts.count (.warned (position + 1))) (times.Tells .work) middle)
  (settled' : Vigil.Settled (.idle globalResource all.warning all.maximum meters') times.arrival now
    (facts.count (.warned 0)) middle (times.Tells (.caller times.caller)))
  (once : (times.told.map Prod.fst).Nodup) (distinct : (times.instants own all).Nodup)

omit second in
include first distinct in
/-- What is told between the two governors, is told at none of the instants that the outer one has in mind. -/
theorem apart_of_middle {instant : Nat} {ending : Ending} (mid : middle instant ending) {span : Duration}
    (mem : span = all.warning ∨ span = all.maximum) (some : span ≠ .zero) :
    instant ≠ times.arrival + span.nanoseconds := by
  have listed : span ∈ [own.warning, own.maximum, all.warning, all.maximum] := by
    rcases mem with rfl | rfl <;> simp
  rcases (first.told instant ending mid).2 with ⟨-, ⟨result, worked, -⟩, -⟩ | ⟨-, limit, -⟩
  · exact CallTimes.ne_of_nodup distinct worked listed some
  · rcases Governor.mem_expireAt?_idle.mp limit with ⟨limited, rfl⟩
    have apart := CallTimes.maximum_ne_of_nodup distinct limited
    rcases mem with rfl | rfl
    · have other := apart.2 some
      omega
    · have other := apart.1 some
      omega

include first settled once in
theorem before_middle_iff {span : Duration} (past : times.arrival + span.nanoseconds ≤ now) :
    (∀ instant ending, middle instant ending → times.arrival + span.nanoseconds < instant) ↔
      (∀ instant ending, times.Tells .work instant ending → times.arrival + span.nanoseconds < instant) ∧
        (own.maximum ≠ .zero → span.nanoseconds < own.maximum.nanoseconds) := by
  rw [first.before_iff settled (fun _ _ _ _ worked again => (CallTimes.work_once once worked again).1) past]
  apply and_congr_right'
  constructor
  · intro limits limited
    exact Nat.lt_of_add_lt_add_left (limits _ (Governor.mem_expireAt?_idle.mpr ⟨limited, rfl⟩))
  · intro below limit limits
    rcases Governor.mem_expireAt?_idle.mp limits with ⟨limited, rfl⟩
    exact Nat.add_lt_add_left (below limited) _

omit second in
include first settled once distinct in
theorem GovernedByMethod.of_vigil : GovernedByMethod now position own times facts where
  once := once
  warning := by
    refine ⟨first.warned_le, (first.warned_iff settled fun instant ending worked limits => ?_).trans ⟨?_, ?_⟩⟩
    · rcases Governor.mem_warnAt?_idle.mp limits with ⟨⟨warns, -⟩, same⟩
      exact CallTimes.ne_of_nodup distinct worked (by simp) warns same
    · rintro ⟨threshold, limits, reached, before⟩
      rcases Governor.mem_warnAt?_idle.mp limits with ⟨⟨warns, -⟩, rfl⟩
      exact ⟨warns, reached, before⟩
    · rintro ⟨warns, reached, before⟩
      have below : own.maximum ≠ .zero → own.warning.nanoseconds < own.maximum.nanoseconds :=
        fun _ => MethodLimits.warning_lt warns
      exact ⟨_, Governor.mem_warnAt?_idle.mpr ⟨⟨warns, below⟩, rfl⟩, reached, before⟩
  limit := by
    refine ⟨first.expired_le, (first.expired_iff settled fun instant ending worked limits => ?_).trans ⟨?_, ?_⟩⟩
    · rcases Governor.mem_expireAt?_idle.mp limits with ⟨limited, same⟩
      exact CallTimes.ne_of_nodup distinct worked (by simp) limited same
    · rintro ⟨limit, limits, reached, before⟩
      rcases Governor.mem_expireAt?_idle.mp limits with ⟨limited, rfl⟩
      exact ⟨limited, reached, before⟩
    · rintro ⟨limited, reached, before⟩
      exact ⟨_, Governor.mem_expireAt?_idle.mpr ⟨limited, rfl⟩, reached, before⟩

include first second settled settled' once distinct in
theorem GovernedByServer.of_vigils : GovernedByServer now name own all times facts where
  answered instant ending := by
    have single : ∀ instant ending other result, times.Tells .work instant ending → times.Tells .work other result →
        instant = other :=
      fun _ _ _ _ worked again => (CallTimes.work_once once worked again).1
    rw [Vigil.nested_iff first second settled settled' single fun one two =>
      (contends_iff.mp one).eq_of_nodup once distinct (contends_iff.mp two) rfl]
    simp only [contends_iff]
  warning := by
    refine ⟨second.warned_le, (second.warned_iff settled' fun instant ending mid limits => ?_).trans ⟨?_, ?_⟩⟩
    · rcases Governor.mem_warnAt?_idle.mp limits with ⟨⟨warns, -⟩, same⟩
      exact apart_of_middle first distinct mid (.inl rfl) warns same
    · rintro ⟨threshold, limits, reached, before⟩
      rcases Governor.mem_warnAt?_idle.mp limits with ⟨⟨warns, below⟩, rfl⟩
      rcases (before_middle_iff first settled once reached).mp before with ⟨early, below'⟩
      exact ⟨⟨warns, reached, early⟩, by simpa using ⟨below', below⟩⟩
    · rintro ⟨⟨warns, reached, early⟩, below⟩
      simp only [List.forall_mem_cons] at below
      have before := (before_middle_iff first settled once reached).mpr ⟨early, below.1⟩
      exact ⟨_, Governor.mem_warnAt?_idle.mpr ⟨⟨warns, below.2.1⟩, rfl⟩, reached, before⟩
  limit := by
    refine ⟨second.expired_le, (second.expired_iff settled' fun instant ending mid limits => ?_).trans ⟨?_, ?_⟩⟩
    · rcases Governor.mem_expireAt?_idle.mp limits with ⟨limited, same⟩
      exact apart_of_middle first distinct mid (.inr rfl) limited same
    · rintro ⟨limit, limits, reached, before⟩
      rcases Governor.mem_expireAt?_idle.mp limits with ⟨limited, rfl⟩
      rcases (before_middle_iff first settled once reached).mp before with ⟨early, below⟩
      exact ⟨⟨limited, reached, early⟩, below⟩
    · rintro ⟨⟨limited, reached, early⟩, below⟩
      have before := (before_middle_iff first settled once reached).mpr ⟨early, below⟩
      exact ⟨_, Governor.mem_expireAt?_idle.mpr ⟨limited, rfl⟩, reached, before⟩

end

end

namespace Course

variable {governors : List Governor} {now position : Nat} {name : String} {own : MethodLimits} {all : GlobalLimits}
  {times : CallTimes} {facts : List CallFact} {chains : List (Chain σ)}

/-- A call that is on its course beyond the governor of its method is governed by it. -/
theorem governedByMethod {route : List Post} (course : Course governors route now times facts chains)
    (nodup : route.Nodup) (inner : [.work, .governor (position + 1)] <:+: route)
    (method : ∃ meters, governors[position + 1]? = some (.idle name own.warning own.maximum meters))
    (quiet : ∀ chain ∈ chains, chain.canAdvance now = false) (early : ∀ chain ∈ chains, chain.Early now)
    (distinct : (times.instants own all).Nodup) : GovernedByMethod now position own times facts := by
  rcases method with ⟨meters, there⟩
  rcases course.settled nodup quiet early inner with ⟨governor, known, first, settled⟩
  rcases Option.some.inj (there.symm.trans known)
  exact .of_vigil first settled (List.nodup_append.mp (course.nodup nodup)).1 distinct

/-- A call that is on its course to its caller is governed by the governor of the server around that of its method. -/
theorem governedByServer
    (course : Course governors [.work, .governor (position + 1), .governor 0, .caller times.caller] now times facts
      chains)
    (root : ∃ meters, governors[0]? = some (.idle globalResource all.warning all.maximum meters))
    (method : ∃ meters, governors[position + 1]? = some (.idle name own.warning own.maximum meters))
    (quiet : ∀ chain ∈ chains, chain.canAdvance now = false) (early : ∀ chain ∈ chains, chain.Early now)
    (distinct : (times.instants own all).Nodup) : GovernedByServer now name own all times facts := by
  have nodup : [Post.work, .governor (position + 1), .governor 0, .caller times.caller].Nodup := by simp
  have inner : [Post.work, .governor (position + 1)] <:+: _ := ⟨[], [.governor 0, .caller times.caller], rfl⟩
  have outer : [Post.governor (position + 1), .governor 0] <:+: _ := ⟨[.work], [.caller times.caller], rfl⟩
  have answer : [Post.governor 0, .caller times.caller] <:+: _ := ⟨[.work, .governor (position + 1)], [], rfl⟩
  rcases root with ⟨meters', there'⟩
  rcases method with ⟨meters, there⟩
  rcases course.settled nodup quiet early inner with ⟨governor, known, first, settled⟩
  rcases course.settled nodup quiet early outer with ⟨governor', known', second, settled'⟩
  rcases Option.some.inj (there.symm.trans known)
  rcases Option.some.inj (there'.symm.trans known')
  have told : times.Tells (.governor 0) = times.Tells (.caller times.caller) := by
    funext instant ending
    exact propext (course.answers_iff nodup quiet answer).symm
  rw [told] at second settled'
  exact .of_vigils first second settled settled' (List.nodup_append.mp (course.nodup nodup)).1 distinct

end Course

namespace Switchboard.Made

variable {methods : List (Method σ)} {limits : GlobalLimits} {switchboard : Switchboard σ}

theorem governors_zero (made : switchboard.Made methods limits) :
    ∃ meters, switchboard.governors[0]? = some (.idle globalResource limits.warning limits.maximum meters) := by
  refine ⟨switchboard.outermost.governor.meters, ?_⟩
  rw [governors, List.getElem?_cons_zero, ← made.outermost.governor_eq]

theorem governors_succ (made : switchboard.Made methods limits) {position : Nat} {method : Method σ}
    (there : methods[position]? = some method) :
    ∃ meters, switchboard.governors[position + 1]? =
      some (.idle method.name method.limits.warning method.limits.maximum meters) := by
  rcases made.enclosure there with ⟨enclosure, known, idle⟩
  refine ⟨enclosure.governor.meters, ?_⟩
  rw [governors, List.getElem?_cons_succ, List.getElem?_map, known, Option.map_some,
    ← Enclosure.IsIdle.governor_eq idle]

end Switchboard.Made

/-- A call that the gates on its way have let in has not been refused. -/
theorem Chronicle.not_refused_of_admitted {switchboard : Switchboard σ} {surroundings : σ}
    {events : List (SwitchboardEvent σ)} {chronicle : Chronicle σ}
    (run : (start switchboard surroundings).run? switchboard events = some chronicle) {call : Nat}
    {record : CallRecord} (known : chronicle.calls[call]? = some record) {position : Nat} {handler : Handler σ}
    (found : switchboard.methods.find? record.method = some (position, handler))
    (entered : .admitted 0 ∈ record.facts) (admitted : .admitted (position + 1) ∈ record.facts) :
    ¬ record.Refused := by
  rintro ⟨gate, refused⟩
  have entrances := satisfies_of_run (CallLaw.entrances gate) run call record known
  have once := List.count_pos_iff.mpr refused
  simp only [Switchboard.layers_of_some found, Switchboard.rootLayers, Switchboard.methodLayers, List.cons_append,
    List.nil_append, List.count_cons, List.count_nil] at entrances
  by_cases root : gate = 0
  · subst root
    have twice := List.count_pos_iff.mpr entered
    simp at entrances
    omega
  · by_cases own : gate = position + 1
    · subst own
      have twice := List.count_pos_iff.mpr admitted
      simp at entrances
      omega
    · simp [Ne.symm root, Ne.symm own] at entrances
      omega

namespace Timetable

variable {methods : List (Method σ)} {limits : GlobalLimits} {switchboard : Switchboard σ} {surroundings : σ}
  {events : List (SwitchboardEvent σ)} {timetable : Timetable σ}

/-- The governor of its method watches every call that a gate has let in. -/
theorem Pursues.inner {stays : String → Prop} {now position gate : Nat} {times : CallTimes} {record : CallRecord}
    {chains : List (Chain σ)} (pursues : Pursues switchboard stays now times record chains) {handler : Handler σ}
    (found : switchboard.methods.find? record.method = some (position, handler))
    (admitted : .admitted gate ∈ record.facts) :
    ∃ rest, [.work, .governor (position + 1)] <:+: rest ∧ rest.Nodup ∧
      Course switchboard.governors rest now times record.facts chains := by
  rcases pursues with ⟨rest, dropped, posts, -, inner, course⟩
  have few := inner.resolve_right fun none => none.2 gate admitted
  have distinct : (rest ++ dropped).Nodup := posts ▸ switchboard.nodup_posts record.method times.caller
  rw [Switchboard.posts_of_some found] at posts
  have long : [Post.work, .governor (position + 1)].length ≤ rest.length := by
    have length := congrArg List.length posts
    simp only [List.length_append, List.length_cons, List.length_nil] at length ⊢
    omega
  have first : [Post.work, .governor (position + 1)] <+: rest ++ dropped := posts ▸ ⟨_, rfl⟩
  have short := List.prefix_of_prefix_length_le first (List.prefix_append rest dropped) long
  exact ⟨rest, short.isInfix, (List.nodup_append.mp distinct).1, course⟩

/--
On a punctual clock, a call of a method that both gates have let in is governed as by one governor with the earlier
limit. The traffic comes by itself to every later instant, with everything done that is due by then; and whenever
everything is done, the governor of the method has counted a warning and a limit by the end of the handler alone,
whatever has become of the caller. If the caller has not gone away, it has been told the ending of the handler, or the
refusal of the method's governor, or that of the server's governor, whichever comes first, at its very instant; and the
governor of the server has counted a warning and a limit if no other limit comes first. The counters of the traffic count
the same, and the callers have been answered in just these ways.
-/
theorem governed_of_run (built : Switchboard.build methods limits = .ok switchboard)
    (punctual : (switchboard.idleTraffic surroundings).keepsTo (Traffic.react? switchboard) Traffic.isPunctual events)
    (run : (start switchboard surroundings).run? switchboard events = some timetable) {position : Nat}
    {method : Method σ} (there : methods[position]? = some method) {call : Nat} {record : CallRecord}
    {times : CallTimes} (known : timetable.chronicle.calls[call]? = some record)
    (timed : timetable.times[call]? = some times) (called : record.method = method.name)
    (entered : .admitted 0 ∈ record.facts) (admitted : .admitted (position + 1) ∈ record.facts)
    (distinct : (times.instants method.limits limits).Nodup) :
    (timetable.chronicle.traffic.due? = none →
      GovernedByMethod timetable.chronicle.traffic.now position method.limits times record.facts ∧
      (.withdraw times.caller ∉ events →
        GovernedByServer timetable.chronicle.traffic.now method.name method.limits limits times record.facts)) ∧
    timetable.chronicle.traffic.Counts timetable.chronicle.times ∧ timetable.Faithful ∧
    ∀ instant, timetable.chronicle.traffic.now ≤ instant → timetable.Reaches switchboard instant := by
  have made := Switchboard.made_of_build built
  have chronicled := run?_chronicle run
  have found : switchboard.methods.find? record.method = some (position, method.handler) :=
    made.find?_eq_some.mpr ⟨method, there, called.symm, rfl⟩
  have kindly := Chronicle.not_refused_of_admitted chronicled known found entered admitted
  have pursues := pursues_of_run made.sound punctual run known timed kindly
  refine ⟨fun settled => ?_, ?_, faithful_of_run made.sound run, fun instant later => reaches_of_run run later⟩
  · have due := Traffic.due?_eq_none_iff.mp settled
    have quiet : ∀ chain ∈ timetable.chronicle.chainsOf call,
        chain.canAdvance timetable.chronicle.traffic.now = false :=
      fun chain mem => (due chain (Chronicle.mem_chainsOf mem)).1
    have early : ∀ chain ∈ timetable.chronicle.chainsOf call, chain.Early timetable.chronicle.traffic.now :=
      fun chain mem => (due chain (Chronicle.mem_chainsOf mem)).2
    refine ⟨?_, fun staying => ?_⟩
    · rcases pursues.inner found admitted with ⟨rest, inner, nodup, course⟩
      exact course.governedByMethod nodup inner (made.governors_succ there) quiet early distinct
    · rcases pursues with ⟨rest, dropped, posts, whole, -, course⟩
      rw [whole staying, List.append_nil, Switchboard.posts_of_some found] at posts
      rw [posts] at course
      exact course.governedByServer made.governors_zero (made.governors_succ there) quiet early distinct
  · exact Chronicle.counts_of_run (made.idle_gates surroundings) (made.idle_governors surroundings) chronicled

/-- A server that waits for twenty milliseconds. -/
def twentyMillis : GlobalLimits := ⟨5, .ofMillis 5, .ofMillis 20⟩

/-- A nap that the governor of the server gives up on before that of the method does. -/
def givenUpTwice : List (SwitchboardEvent Unit) :=
  [.call "first" "getNap" .null] ++ Chronicle.comeIn 0 ++
    [.elapse 5000000, .warn 0 1, .elapse 10000000, .warn 0 0, .elapse 20000000, .expire 0 1, .advance 0,
      .elapse 30000000, .expire 0 0, .advance 0, .advance 0, .advance 0, .elapse 1000000000] ++
    List.replicate 4 (.advance 0)

/-- The server and then the method give up on the same call, each at its own limit. -/
theorem governed_givenUpTwice :
    ∃ switchboard timetable record times,
      Switchboard.build [Chronicle.napping "getNap" 5 (.ofMillis 30)] twentyMillis = .ok switchboard ∧
      (start switchboard ()).run? switchboard givenUpTwice = some timetable ∧
      timetable.chronicle.calls[0]? = some record ∧ timetable.times[0]? = some times ∧
      times.Tells (.caller "first") 20000000 (.answered (.error (.durationExceeded globalResource (.ofMillis 20)))) ∧
      timetable.chronicle.traffic.Answered "first"
        (.answered (.error (.durationExceeded globalResource (.ofMillis 20)))) ∧
      record.facts.count (.expired 0) = 1 ∧ record.facts.count (.expired 1) = 1 := by
  rcases Switchboard.exists_of_check [Chronicle.napping "getNap" 5 (.ofMillis 30)] twentyMillis
      (fun switchboard => (start switchboard ()).run? switchboard givenUpTwice)
      (fun switchboard timetable =>
        (switchboard.idleTraffic ()).keepsTo (Traffic.react? switchboard) Traffic.isPunctual givenUpTwice &&
        timetable.chronicle.traffic.due?.isNone &&
        (timetable.chronicle.calls.zip timetable.times)[0]?.any fun (record, times) =>
          decide (timetable.chronicle.traffic.now = 1000000000 ∧ record.method = "getNap" ∧ times.caller = "first" ∧
            times.arrival = 0 ∧ .admitted 0 ∈ record.facts ∧ .admitted 1 ∈ record.facts ∧
            (times.instants ⟨5, .ofMillis 30⟩ twentyMillis).Nodup ∧
            ∀ told ∈ times.told, told.1 = .work → 30000000 < told.2.1))
      (by decide +kernel) with
    ⟨switchboard, timetable, built, run, seen⟩
  rw [Bool.and_eq_true, Bool.and_eq_true, Option.isNone_iff_eq_none, Option.any_eq_true] at seen
  rcases seen with ⟨⟨punctual, settled⟩, ⟨record, times⟩, place, seen⟩
  rcases List.getElem?_zip_eq_some.mp place with ⟨known, timed⟩
  rcases of_decide_eq_true seen with ⟨now, called, caller, arrival, entered, admitted, distinct, lasting⟩
  have there : [Chronicle.napping "getNap" 5 (.ofMillis 30)][0]? =
      some (Chronicle.napping "getNap" 5 (.ofMillis 30)) := rfl
  have staying : .withdraw times.caller ∉ givenUpTwice := by simp [givenUpTwice, Chronicle.comeIn]
  rcases governed_of_run built punctual run there known timed called entered admitted distinct with
    ⟨governs, -, faithful, -⟩
  rcases governs settled with ⟨within, without⟩
  have governed := without staying
  -- The handler ends long after both limits.
  have late : ∀ instant ending, times.Tells .work instant ending → 30000000 < instant := fun _ _ worked =>
    lasting _ worked rfl
  have outlasts : ∀ millis, millis = 20 ∨ millis = 30 →
      times.Outlasts timetable.chronicle.traffic.now (.ofMillis millis) := by
    rintro millis (rfl | rfl)
    all_goals
      refine ⟨by decide, ?_, fun instant ending worked => ?_⟩
      · rw [arrival, now]
        decide
      · rw [arrival]
        exact lt_of_le_of_lt (by decide) (late instant ending worked)
  have told : times.Tells (.caller times.caller) 20000000
      (.answered (.error (.durationExceeded globalResource (.ofMillis 20)))) := by
    have instant : times.arrival + twentyMillis.maximum.nanoseconds = 20000000 := by
      rw [arrival]
      decide
    rw [← instant]
    refine (governed.answered _ _).mpr ⟨.all (by decide) (outlasts 20 (.inl rfl)).2.1, fun other result contends => ?_⟩
    rw [instant]
    cases contends with
    | ended worked => exact le_trans (by decide) (late _ _ worked).le
    | own limited reached => exact le_trans (by decide) (Nat.le_add_left _ _)
    | all limited reached => exact instant.ge
  rw [caller] at told
  refine ⟨switchboard, timetable, record, times, built, run, known, timed, told, ?_, ?_, ?_⟩
  · exact (faithful _ _).mpr ⟨times, List.mem_of_getElem? timed, _, told⟩
  · exact governed.limit.2.mpr ⟨outlasts 20 (.inl rfl), fun _ => by decide⟩
  · exact within.limit.2.mpr (outlasts 30 (.inr rfl))

end Timetable

end LedgerService
