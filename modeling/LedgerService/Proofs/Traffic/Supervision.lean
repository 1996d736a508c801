import LedgerService.Proofs.Traffic.Mirror

/-!
# Supervision

What one governor makes of one request. The caller is answered once: with the end of the work if that comes before the
limit, and with a refusal at the limit if it does not. The governor counts at most one warning and at most one request
that reached the limit (`Supervision`, `Supervision.Settled`). Once the caller is answered, the governor counts no more
(`Errand.Tracks.unchanged_of_run`), though the work goes on as it would without the governor. What becomes of a request
up to an instant does not depend on what its work does later; so what is said of work that has not ended by an instant
holds of work that never ends.
-/

namespace LedgerService

variable {σ : Type}

/-- A request arrives whose work a governor watches over. -/
def Governor.supervise (governor : Governor) (arrival : Nat) (surroundings : σ) (caller : String) (work : Work σ) :
    Errand σ :=
  .start [governor] [.governor 0] arrival surroundings caller work

/-- What a governor makes of a request to a caller, when it has warned and given up so many times. -/
structure Supervision (governor : Governor) (arrival : Nat) (caller : String) (errand : Errand σ)
    (warned expired : Nat) : Prop where
  /-- The governor is as before, apart from what it has counted. -/
  counted : errand.traffic.governors =
    [{ governor with
      warnings := governor.warnings + warned
      expirations := governor.expirations + expired }]
  often : warned ≤ 1 ∧ expired ≤ 1
  /-- Nobody is told twice. -/
  once : (errand.times.told.map Prod.fst).Nodup
  /-- The caller is answered with what it is told. -/
  answered : (∀ instant ending, ¬errand.times.Tells (.caller caller) instant ending) ∧ errand.traffic.outcomes = [] ∨
    ∃ instant ending, errand.times.Tells (.caller caller) instant ending ∧
      errand.traffic.outcomes = [(caller, .ended ending)]
  /-- What the caller is told is how the work has ended, or the refusal of a governor that has given up. -/
  told : ∀ instant ending, errand.times.Tells (.caller caller) instant ending →
    (expired = 0 ∧ (∃ result, errand.times.Tells .work instant result ∧
      ending = result.contained governor.resource) ∧
        (governor.limit ≠ .zero → instant ≤ arrival + governor.limit.nanoseconds)) ∨
    (expired = 1 ∧ (governor.limit ≠ .zero ∧ instant = arrival + governor.limit.nanoseconds) ∧
      ending = .answered (.error (.durationExceeded governor.resource governor.limit)) ∧
        ∀ other result, errand.times.Tells .work other result → instant ≤ other)
  /-- Without a threshold before the limit, and for work that ends before the threshold, there is no warning. -/
  unwarned : (governor.warning = .zero ∨
      (governor.limit ≠ .zero ∧ governor.limit.nanoseconds ≤ governor.warning.nanoseconds) ∨
        ∃ instant result, errand.times.Tells .work instant result ∧
          instant < arrival + governor.warning.nanoseconds) →
    warned = 0

/-- What a governor has made of a request once everything is done that is due. -/
structure Supervision.Settled (governor : Governor) (arrival : Nat) (caller : String) (errand : Errand σ)
    (warned expired : Nat) : Prop where
  /-- Work that ends before the limit ends so for the caller. -/
  ended : ∀ instant result, errand.times.Tells .work instant result →
    (governor.limit ≠ .zero → instant < arrival + governor.limit.nanoseconds) →
      errand.times.Tells (.caller caller) instant (result.contained governor.resource) ∧ expired = 0
  /-- Work that has not ended by the limit is given up on. -/
  refused : governor.limit ≠ .zero → arrival + governor.limit.nanoseconds ≤ errand.traffic.now →
    (∀ instant result, errand.times.Tells .work instant result →
      arrival + governor.limit.nanoseconds < instant) →
        errand.times.Tells (.caller caller) (arrival + governor.limit.nanoseconds)
          (.answered (.error (.durationExceeded governor.resource governor.limit))) ∧ expired = 1
  /-- Work that has not ended by the threshold is warned of, if the threshold lies before the limit. -/
  warned : governor.warning ≠ .zero →
    (governor.limit ≠ .zero → governor.warning.nanoseconds < governor.limit.nanoseconds) →
      arrival + governor.warning.nanoseconds ≤ errand.traffic.now →
        (∀ instant result, errand.times.Tells .work instant result →
          arrival + governor.warning.nanoseconds < instant) →
            warned = 1
  unanswered : errand.traffic.outcomes = [] → expired = 0
  /-- Where the work itself does not end with this refusal, the refusals are counted. -/
  refusals : (∀ instant result, errand.times.Tells .work instant result →
      result.contained governor.resource ≠
        .answered (.error (.durationExceeded governor.resource governor.limit))) →
    (expired = 1 ↔ ∃ instant, errand.times.Tells (.caller caller) instant
      (.answered (.error (.durationExceeded governor.resource governor.limit))))

theorem Post.route_governor (caller : String) :
    route [.governor 0] caller = [.work, .governor 0, .caller caller] := rfl

theorem Post.nodup_route_governor (caller : String) : (route [.governor 0] caller).Nodup := by
  simp [route_governor]

/-- The work, the governor and the caller learn of the ending one after the other. -/
theorem Post.pairs_route_governor (caller : String) :
    [.work, .governor 0] <:+: route [.governor 0] caller ∧
      [.governor 0, .caller caller] <:+: route [.governor 0] caller :=
  ⟨⟨[], [.caller caller], rfl⟩, ⟨[.work], [], rfl⟩⟩

namespace Errand

variable {errand later : Errand σ} {governor : Governor} {caller : String} {arrival : Nat}

theorem known_of_single (governor : Governor) :
    ∀ index, .governor index ∈ [Layer.governor 0] → [governor][index]? ≠ none := by
  simp

namespace Tracks

variable (tracks : errand.Tracks [governor] [.governor 0] caller arrival)

include tracks

theorem counted :
    errand.traffic.governors =
      [{ governor with
        warnings := governor.warnings + errand.facts.count (.warned 0)
        expirations := governor.expirations + errand.facts.count (.expired 0) }] := by
  rcases List.map_eq_singleton_iff.mp tracks.governed with ⟨current, single, design⟩
  have warnings := tracks.counts.warnings 0 current (by simp [single])
  have expirations := tracks.counts.expirations 0 current (by simp [single])
  simp only [shown, List.getElem?_cons_zero, Option.elim_some] at warnings expirations
  simp only [Governor.design, Governor.idle, Governor.mk.injEq] at design
  rw [single, ← warnings, ← expirations, ← design.1, ← design.2.1, ← design.2.2.1, ← design.2.2.2.2.2]

theorem vigil :
    Vigil governor arrival errand.traffic.now (errand.facts.count (.warned 0)) (errand.facts.count (.expired 0))
      (errand.times.Tells .work) (errand.times.Tells (.governor 0)) := by
  rcases tracks.course.vigils .work 0 (Post.pairs_route_governor caller).1 with ⟨known, there, vigil⟩
  rcases Option.some.inj there with rfl
  rw [← tracks.times.2]
  exact vigil

theorem supervision :
    Supervision governor arrival caller errand (errand.facts.count (.warned 0)) (errand.facts.count (.expired 0)) where
  counted := tracks.counted
  often := ⟨tracks.vigil.warned_le, tracks.vigil.expired_le⟩
  once := (List.nodup_append.mp (tracks.course.nodup (Post.nodup_route_governor caller))).1
  answered := tracks.answered (Post.nodup_route_governor caller)
  told instant ending told := by
    have outside := tracks.course.answers _ caller (Post.pairs_route_governor caller).2 instant ending told
    rcases (tracks.vigil.told instant ending outside).2 with ⟨zero, ended, inTime⟩ | ⟨one, limit, refused, before⟩
    · refine .inl ⟨zero, ended, fun limited => ?_⟩
      exact inTime _ (Governor.mem_expireAt?.mpr ⟨limited, rfl⟩)
    · exact .inr ⟨one, Governor.mem_expireAt?.mp limit, refused, before⟩
  unwarned := by
    intro early
    apply tracks.vigil.unwarned_of_early
    intro threshold warns
    rcases Governor.mem_warnAt?.mp warns with ⟨⟨some, below⟩, rfl⟩
    rcases early with none | ⟨limited, beyond⟩ | soon
    · exact absurd none some
    · exact absurd (below limited) (Nat.not_lt.mpr beyond)
    · simpa using soon

section

variable (settled : errand.traffic.due? = none)

include settled

theorem vigil_settled :
    Vigil.Settled governor arrival errand.traffic.now (errand.facts.count (.warned 0)) (errand.times.Tells .work)
      (errand.times.Tells (.governor 0)) := by
  have due := Traffic.due?_eq_none_iff.mp settled
  rcases tracks.course.settled (Post.nodup_route_governor caller) (fun chain mem => (due chain mem).1)
      (fun chain mem => (due chain mem).2) (Post.pairs_route_governor caller).1 with ⟨known, there, -, done⟩
  rcases Option.some.inj there with rfl
  rw [← tracks.times.2]
  exact done

/-- The caller knows what was told outside the governor. -/
theorem answers_iff (instant : Nat) (ending : Ending) :
    errand.times.Tells (.caller caller) instant ending ↔ errand.times.Tells (.governor 0) instant ending := by
  apply tracks.course.answers_iff (Post.nodup_route_governor caller) _ (Post.pairs_route_governor caller).2
  intro chain mem
  exact (Traffic.due?_eq_none_iff.mp settled chain mem).1

theorem supervision_settled :
    Supervision.Settled governor arrival caller errand (errand.facts.count (.warned 0))
      (errand.facts.count (.expired 0)) := by
  have distinct := Post.nodup_route_governor caller
  have vigil := tracks.vigil
  have done := tracks.vigil_settled settled
  have answers := tracks.answers_iff settled
  refine ⟨?_, ?_, ?_, ?_, ?_⟩
  · intro instant result ended early
    rw [answers]
    apply vigil.outside_of_early done _ ended
    · intro limit limits
      rcases Governor.mem_expireAt?.mp limits with ⟨limited, rfl⟩
      exact early limited
    · intro instant ending other result one two
      exact tracks.course.tells_once distinct one two
  · intro limited reached late
    rw [answers]
    exact vigil.outside_of_late done (Governor.mem_expireAt?.mpr ⟨limited, rfl⟩) reached late
  · intro some below reached late
    exact vigil.warned_of_late done (Governor.mem_warnAt?.mpr ⟨⟨some, below⟩, rfl⟩) reached late
  · intro nothing
    apply vigil.untold
    intro instant ending told
    rcases tracks.answered distinct with ⟨untold, -⟩ | ⟨_, _, -, answered⟩
    · exact untold instant ending ((answers instant ending).mpr told)
    · simp [nothing] at answered
  · intro apart
    simp only [answers]
    exact vigil.expired_iff_refusal done apart

end

/-- Once the caller is answered, neither the answer nor the counts change any more. -/
theorem unchanged_of_run (replied : errand.traffic.outcomes ≠ []) {more : List (SwitchboardEvent σ)}
    (punctual : errand.isPunctual more = true) (run : errand.run? more = some later) :
    later.traffic.outcomes = errand.traffic.outcomes ∧ later.traffic.governors = errand.traffic.governors := by
  have distinct := Post.nodup_route_governor caller
  have known := known_of_single governor
  have tracks' := tracks.of_run known distinct punctual run
  rcases tracks.answered distinct with ⟨-, nothing⟩ | ⟨instant, ending, told, outcomes⟩
  · exact absurd nothing replied
  have still := tells_of_run told run
  constructor
  · rcases tracks'.answered distinct with ⟨untold, -⟩ | ⟨other, result, told', outcomes'⟩
    · exact absurd still (untold instant ending)
    · rw [outcomes, outcomes', (tracks'.course.tells_once distinct still told').2]
  · apply tracks.governors_of_run known distinct _ punctual run
    intro index passed
    have here : index = 0 := by simpa using passed
    rw [here]
    exact ⟨instant, ending, tracks.course.answers _ caller (Post.pairs_route_governor caller).2 instant ending told⟩

end Tracks

end Errand

/--
After every run on a punctual clock, a governor has made of a request what it should have. The work has got as far as it
would have without the governor. Nothing that happens after the answer changes the answer or the counts; and all of this
comes about by itself, up to any later instant, and up to the end of the work.
-/
theorem Governor.supervision_of_run {governor : Governor} {arrival : Nat} {surroundings : σ} {caller : String}
    {work : Work σ} {events : List (SwitchboardEvent σ)} {errand : Errand σ}
    (punctual : (governor.supervise arrival surroundings caller work).isPunctual events = true)
    (run : (governor.supervise arrival surroundings caller work).run? events = some errand) :
    (∃ warned expired, Supervision governor arrival caller errand warned expired ∧
      (errand.traffic.due? = none → Supervision.Settled governor arrival caller errand warned expired)) ∧
    (Errand.start [] [] arrival surroundings caller work).Follows events errand ∧
    (∀ more later, errand.isPunctual more = true → errand.run? more = some later → errand.traffic.outcomes ≠ [] →
      later.traffic.outcomes = errand.traffic.outcomes ∧ later.traffic.governors = errand.traffic.governors) ∧
    (∀ instant, errand.traffic.now ≤ instant →
      ∃ later, errand.Becomes later ∧ later.traffic.now = instant ∧ later.traffic.due? = none) ∧
    ∃ later, errand.Becomes later ∧ later.traffic.outcomes ≠ [] ∧
      ∃ instant ending, later.times.Tells .work instant ending := by
  have distinct := Post.nodup_route_governor caller
  have known := Errand.known_of_single governor
  have begun : (governor.supervise arrival surroundings caller work).Tracks [governor] [.governor 0] caller arrival :=
    Errand.Tracks.start known surroundings work
  have tracks := begun.of_run known distinct punctual run
  have proceeds : Traffic.Proceeds Errand.traffic (Errand.Tracks (σ := σ) [governor] [.governor 0] caller arrival)
      Errand.Becomes := Errand.proceeds known distinct
  refine ⟨⟨_, _, tracks.supervision, tracks.supervision_settled⟩, ?_, ?_, ?_, ?_⟩
  · exact (Errand.Mirrors.start _ _ arrival surroundings caller work).of_run begun known distinct punctual run
  · intro more later punctual run replied
    exact tracks.unchanged_of_run replied punctual run
  · intro instant ahead
    exact proceeds.reaches tracks ahead
  · rcases proceeds.ends tracks with ⟨later, becomes, nothing⟩
    have tracks' := proceeds.kept tracks becomes
    have told : ∀ post ∈ Post.route [.governor 0] caller, ∃ instant ending, later.times.Tells post instant ending := by
      intro post mem
      apply (tracks'.course.tells_or_pending mem).resolve_right
      simp [nothing]
    refine ⟨later, becomes, ?_, told .work (by simp [Post.route_governor])⟩
    rcases told (.caller caller) (by simp [Post.route_governor]) with ⟨instant, ending, answered⟩
    rcases tracks'.answered distinct with ⟨untold, -⟩ | ⟨_, _, -, outcomes⟩
    · exact absurd answered (untold instant ending)
    · simp [outcomes]

/-- A governor that warns after thirty milliseconds and gives up after ninety. -/
def Governor.ofNaps : Governor := .idle "getNap" (.ofMillis 30) (.ofMillis 90) none

/-- A nap of some milliseconds. -/
def Work.nap (millis : Nat) (ending : Ending) : Work Unit := .pause (.ofMillis millis) (.done ending)

/-- The refusal of the governor. -/
def Ending.overslept : Ending := .answered (.error (.durationExceeded "getNap" (.ofMillis 90)))

/-- A nap of two hundred milliseconds. -/
def Errand.longNap : List (SwitchboardEvent Unit) :=
  [.advance 0, .advance 0, .elapse 30000000, .warn 0 0, .elapse 90000000, .expire 0 0, .advance 0, .elapse 200000000,
    .advance 0, .advance 0, .advance 0]

/-- The nap lasts longer than the limit, and its end is not seen. -/
theorem Governor.supervision_of_longNap :
    ∃ errand, (ofNaps.supervise 0 () "first" (.nap 200 (.answered (.ok .null)))).run? Errand.longNap = some errand ∧
      errand.times.Tells .work 200000000 (.answered (.ok .null)) ∧
      errand.times.Tells (.caller "first") 90000000 .overslept ∧
      errand.traffic.governors = [{ ofNaps with warnings := 1, expirations := 1 }] := by
  have ran : ∃ errand,
      (ofNaps.supervise 0 () "first" (.nap 200 (.answered (.ok .null)))).run? Errand.longNap = some errand ∧
        errand.traffic.due? = none ∧ errand.traffic.now = 200000000 ∧
        errand.times.told = [(.work, 200000000, .answered (.ok .null)), (.caller "first", 90000000, .overslept),
          (.governor 0, 90000000, .overslept)] :=
    ⟨_, rfl, rfl, rfl, rfl⟩
  rcases ran with ⟨errand, run, due, now, told⟩
  have late : ∀ instant result, errand.times.Tells .work instant result → 90000000 < instant := by
    simp [CallTimes.Tells, told]
  rcases supervision_of_run rfl run with ⟨⟨warned, expired, supervision, settled⟩, -⟩
  rcases (settled due).refused (by decide) (by rw [now]; decide) late with ⟨refused, one⟩
  have once : warned = 1 := by
    apply (settled due).warned (by decide) (by decide) (by rw [now]; decide)
    intro instant result ended
    exact lt_trans (by decide) (late instant result ended)
  refine ⟨errand, run, ?_, refused, ?_⟩
  · simp [CallTimes.Tells, told]
  · rw [supervision.counted, once, one]
    rfl

/--
A governor may tell of a limit that it has not enforced: a nap of ten milliseconds that itself ends with the words of the
refusal is told as it is, and is not counted.
-/
theorem Governor.overslept_of_shortNap :
    ∃ errand, (ofNaps.supervise 0 () "first" (.nap 10 .overslept)).run?
        [.advance 0, .advance 0, .elapse 10000000, .advance 0, .advance 0, .advance 0, .advance 0] = some errand ∧
      (ofNaps.supervise 0 () "first" (.nap 10 .overslept)).isPunctual
        [.advance 0, .advance 0, .elapse 10000000, .advance 0, .advance 0, .advance 0, .advance 0] = true ∧
      errand.traffic.due? = none ∧ errand.traffic.chains = [] ∧
      errand.times.Tells (.caller "first") 10000000 .overslept ∧
      errand.traffic.outcomes = [("first", .ended .overslept)] ∧
      errand.traffic.governors = [ofNaps] :=
  ⟨_, rfl, rfl, rfl, rfl, List.mem_cons_self, rfl, rfl⟩

end LedgerService
