import LedgerService.Proofs.Ingestion.Contributions
import LedgerService.Proofs.Rpc.Paging
import LedgerService.Proofs.Rpc.Registration
import LedgerService.Settings.Configuration

/-!
# How fresh a healthy service is

The health of a service is judged in whole seconds: the clock and the limit are both rounded down, and the difference to
the close of the newest ledger is kept within a signed word and not below zero. None of this changes the judgement but
for the rounding: as the close is a whole second, the age is rounded down once (`ClockReading.seconds_sub`), and what is
beyond a word is beyond every limit (`latency_eq`). So a service is healthy while its newest ledger is no older than
the limit, and unhealthy as soon as it is older by a second (`health_within_a_second`).
-/

namespace LedgerService

variable {σ : Type}

namespace ClockReading

/-- The milliseconds since the close of a ledger, exactly; a ledger of the future has a negative age. -/
def age (reading : ClockReading) (closeTime : Int64) : Int := reading.milliseconds.toInt - 1000 * closeTime.toInt

theorem toInt_seconds (reading : ClockReading) : reading.seconds.toInt = reading.milliseconds.toInt / 1000 := by
  have least := reading.milliseconds.le_toInt
  have most := reading.milliseconds.toInt_lt
  simp only [seconds, Int.fdiv_eq_ediv_of_nonneg _ (show (0 : Int) ≤ 1000 by decide)]
  apply Int64.toInt_ofInt_of_le
  · omega
  · omega

/-- Whole seconds, rounded down, differ from a whole second by the difference rounded down. -/
theorem seconds_sub (reading : ClockReading) (closeTime : Int64) :
    reading.seconds.toInt - closeTime.toInt = reading.age closeTime / 1000 := by
  simp only [toInt_seconds, age]
  omega

end ClockReading

/-- The latency is the age in whole seconds, kept within a signed word and not below zero. -/
theorem latency_eq (reading : ClockReading) (closeTime : Int64) :
    (latency reading.seconds closeTime : Int) = max 0 (min Word.most64 (reading.age closeTime / 1000)) := by
  simp only [latency, reading.seconds_sub, toInt_nearest64, Int.toNat_eq_max]
  unfold Word.least64 Word.most64
  omega

theorem Duration.seconds_ofMillis (millis : Nat) : (Duration.ofMillis millis).seconds = millis / 1000 := by
  simp only [ofMillis, seconds]
  omega

theorem seconds_lt_most64 (millis : UInt64) : ((millis.toNat / 1000 : Nat) : Int) < Word.most64 := by
  have bound := millis.toNat_lt
  unfold Word.most64
  omega

variable [LedgerSource σ]

/-- A service whose store can be read judges its health by the newest ledger and the clock. -/
theorem settle_answerHealth {surroundings : Surroundings σ} (smooth : surroundings.Smooth) {range : SequenceRange}
    {newest : LedgerSummary} (ranged : LedgerSource.range surroundings.store = .ok (some range))
    (latest : LedgerSource.latest surroundings.store = .ok (some newest)) (retention : UInt32) (greatest : Duration)
    (params : Json) :
    (answerHealth retention greatest params).settle surroundings = .answered (
      if greatest.seconds < latency surroundings.clock.seconds newest.closeTime then
        .error (staleLedger (latency surroundings.clock.seconds newest.closeTime) greatest.seconds)
      else .ok (HealthResponse.schema.encode ⟨"healthy", range.last, range.first, retention⟩)) := by
  rw [answerHealth, Surroundings.readRange, Surroundings.settle_read smooth ranged, Surroundings.present,
    Surroundings.readLatest, Surroundings.settle_read smooth.withoutStall latest, Surroundings.present, Work.look,
    Work.settle]
  -- the clock is read after the store, but that moves no clock
  have stopped : surroundings.withoutStall.withoutStall.clock = surroundings.clock := rfl
  rw [← stopped]
  by_cases stale : greatest.seconds < latency surroundings.withoutStall.withoutStall.clock.seconds newest.closeTime
  · simp only [if_pos stale]
    rfl
  · simp only [if_neg stale]
    rfl

/--
Whatever the clock, the close of the newest ledger and the limit: the service answers that it is healthy if the newest
ledger is no older than the limit. If it is older by a second or more, the service complains about the latency: the age
in whole seconds, unless that is more than a signed word can hold.
-/
theorem health_within_a_second (configuration : Configuration) {surroundings : Surroundings σ}
    (smooth : surroundings.Smooth) {range : SequenceRange} {newest : LedgerSummary}
    (ranged : LedgerSource.range surroundings.store = .ok (some range))
    (latest : LedgerSource.latest surroundings.store = .ok (some newest)) {method : Method (Surroundings σ)}
    (offered : method ∈ configuration.service.methodList) (named : method.name = "getHealth") (params : Json) :
    let age := surroundings.clock.age newest.closeTime
    let limit := configuration.greatestLatencyMillis.toNat
    (age ≤ limit → (method.handler params).settle surroundings =
      .answered (.ok (.object [("status", .text "healthy"), ("latestLedger", .integer range.last.toNat),
        ("oldestLedger", .integer range.first.toNat),
        ("ledgerRetentionWindow", .integer configuration.historyRetention.toNat)]))) ∧
    (limit + 1000 ≤ age → ∃ seconds : Nat, limit / 1000 < seconds ∧ (seconds : Int) = min Word.most64 (age / 1000) ∧
      (method.handler params).settle surroundings = .answered (.error (.service (.internal
        ("latency (" ++ toString seconds ++ "s) since last known ledger closed is too high (>" ++
          toString (limit / 1000) ++ "s)"))))) := by
  intro age limit
  have same := ServiceConfig.eq_of_name offered configuration.service.health_mem_methodList named
  have rounded : configuration.service.greatestLatency.seconds = limit / 1000 := Duration.seconds_ofMillis limit
  have seconds := latency_eq surroundings.clock newest.closeTime
  have small := seconds_lt_most64 configuration.greatestLatencyMillis
  rw [same, settle_answerHealth smooth ranged latest, rounded]
  constructor
  · intro fresh
    have within : latency surroundings.clock.seconds newest.closeTime ≤ limit / 1000 := by omega
    rw [if_neg (Nat.not_lt.mpr within)]
    rfl
  · intro stale
    have beyond : limit / 1000 < latency surroundings.clock.seconds newest.closeTime := by omega
    refine ⟨_, beyond, ?_, ?_⟩
    · omega
    · rw [if_pos beyond]
      rfl

theorem health_at_the_epoch :
    let surroundings : Surroundings LedgerSession := ⟨.on ⟨[(ClosedLedger.quiet 7).row], true⟩,
      (FeeBook.empty 1 1 "network").toOption.get rfl, ⟨-1⟩, []⟩
    let late := { surroundings with clock := ⟨31000⟩ }
    let method : Method (Surroundings LedgerSession) :=
      ⟨"getHealth", ⟨1000, .ofMillis 5000⟩, answerHealth 120960 (.ofMillis 30000)⟩
    method ∈ Configuration.standard.service.methodList ∧
    (method.handler .null).settle surroundings =
      .answered (.ok (.object [("status", .text "healthy"), ("latestLedger", .integer 7), ("oldestLedger", .integer 7),
        ("ledgerRetentionWindow", .integer 120960)])) ∧
    (method.handler .null).settle late = .answered (.error (.service (.internal
      "latency (31s) since last known ledger closed is too high (>30s)"))) := by
  intro surroundings late method
  have offered : method ∈ Configuration.standard.service.methodList :=
    Configuration.standard.service.health_mem_methodList
  have calm : surroundings.Smooth := nofun
  have lateCalm : late.Smooth := nofun
  have young := (health_within_a_second Configuration.standard calm rfl rfl offered rfl .null).1 (by decide)
  rcases (health_within_a_second Configuration.standard lateCalm rfl rfl offered rfl .null).2 (by decide) with
    ⟨seconds, -, aged, old⟩
  have rounded : seconds = 31 := Int.ofNat_inj.mp (aged.trans (by decide))
  subst rounded
  exact ⟨offered, young, old⟩

end LedgerService
