import LedgerService.Proofs.Fees.Book
import LedgerService.Proofs.Rpc.Registration
import LedgerService.Startup

/-!
# Validated configurations

A configuration that is accepted describes things that can be built: the fee book, the transactions of every ledger,
the limits of the server and its switchboard (`Configuration.validate_sound`). Two validators look at the limits of
the server, one at milliseconds and one at durations; `Configuration.limitsValid_iff` says that they agree about all
configurations, accepted or not. A service with an accepted configuration therefore fails to start for reasons that
lie outside its configuration, or in its addresses (`Configuration.start_of_validate`).
-/

namespace LedgerService

theorem check_eq_ok_iff {ε : Type} {broken : Prop} [Decidable broken] {complaint : ε} {others : Except ε Unit} :
    (if broken then .error complaint else others) = .ok () ↔ ¬broken ∧ others = .ok () := by
  by_cases holds : broken <;> simp [holds]

/-- A step that passes its error on, wrapped, and another step after it. -/
theorem error_of_step {ε φ α β : Type} {step : Except ε α} {wrap : ε → φ} {next : α → Except φ β} {fault : φ}
    (failed : (step.mapError wrap >>= next) = .error fault) :
    (∃ cause, fault = wrap cause ∧ step = .error cause) ∨ ∃ value, step = .ok value ∧ next value = .error fault := by
  cases step with
  | error cause =>
      rcases failed
      exact .inl ⟨cause, rfl, rfl⟩
  | ok value => exact .inr ⟨value, rfl, failed⟩

theorem Text.trim_of_isEmpty {text : String} (empty : text.isEmpty = true) : Text.trim text = "" := by
  rw [String.isEmpty_iff] at empty
  simp [empty, Text.trim]

theorem ClosedLedger.transactions_ne_missingPassphrase {passphrase : String} (given : passphrase.isEmpty = false)
    (ledger : ClosedLedger) : ledger.transactions passphrase ≠ .error .missingPassphrase := by
  simp only [transactions, given, Bool.false_eq_true, if_false]
  split <;> simp

theorem Duration.ofMillis_le_iff {shorter longer : Nat} :
    (ofMillis shorter).nanoseconds ≤ (ofMillis longer).nanoseconds ↔ shorter ≤ longer := by
  simp only [ofMillis]
  omega

theorem Duration.ofMillis_eq_zero_iff {millis : Nat} : ofMillis millis = .zero ↔ millis = 0 := by
  simp only [ofMillis, zero, Duration.mk.injEq]
  omega

theorem GlobalLimits.validate_eq_ok_iff (limits : GlobalLimits) :
    limits.validate = .ok () ↔
      limits.queueLimit ≠ 0 ∧
      ¬(limits.maximum ≠ .zero ∧ limits.maximum.nanoseconds ≤ limits.warning.nanoseconds) := by
  unfold GlobalLimits.validate
  rw [check_eq_ok_iff, check_eq_ok_iff]
  simp

namespace Configuration

variable {configuration : Configuration}

/-- What has to hold of the limits of the whole service. -/
structure LimitsValid (configuration : Configuration) : Prop where
  queueLimit : configuration.globalQueueLimit ≠ 0
  warning : configuration.globalMaximumMillis ≠ 0 →
    configuration.globalWarningMillis < configuration.globalMaximumMillis

/-- What has to hold of everything else. -/
structure RestValid (configuration : Configuration) : Prop where
  passphrase : (Text.trim configuration.passphrase).isEmpty = false
  administration : configuration.administration? ≠ some configuration.endpoint
  classicRetention : 0 < configuration.classicRetention
  contractRetention : 0 < configuration.contractRetention
  historyRetention : 0 < configuration.historyRetention
  pages : configuration.usualPage ≤ configuration.greatestPage

theorem validate_eq_ok_iff :
    configuration.validate = .ok () ↔ configuration.RestValid ∧ configuration.LimitsValid := by
  simp only [validate, check_eq_ok_iff]
  constructor
  · rintro ⟨passphrase, administration, classic, contract, history, pages, queueLimit, warning, -⟩
    have rest : configuration.RestValid :=
      { passphrase := by simpa using passphrase
        administration
        classicRetention := UInt32.pos_iff_ne_zero.mpr classic
        contractRetention := UInt32.pos_iff_ne_zero.mpr contract
        historyRetention := UInt32.pos_iff_ne_zero.mpr history
        pages := UInt32.not_lt.mp pages }
    refine ⟨rest, queueLimit, ?_⟩
    intro limited
    apply UInt64.not_le.mp
    intro late
    exact warning ⟨limited, late⟩
  · rintro ⟨rest, queueLimit, warning⟩
    refine ⟨by simp [rest.passphrase], rest.administration, UInt32.pos_iff_ne_zero.mp rest.classicRetention,
      UInt32.pos_iff_ne_zero.mp rest.contractRetention, UInt32.pos_iff_ne_zero.mp rest.historyRetention,
      UInt32.not_lt.mpr rest.pages, queueLimit, ?_, trivial⟩
    rintro ⟨limited, late⟩
    exact UInt64.not_lt.mpr late (warning limited)

/-- Both validators ask the same of the limits of the whole service. -/
theorem limitsValid_iff : configuration.LimitsValid ↔ configuration.service.limits.validate = .ok () := by
  rw [GlobalLimits.validate_eq_ok_iff]
  constructor
  · rintro ⟨queueLimit, warning⟩
    refine ⟨queueLimit, ?_⟩
    rintro ⟨limited, late⟩
    have early := warning fun none => limited (Duration.ofMillis_eq_zero_iff.mpr (congrArg UInt64.toNat none))
    exact UInt64.not_le.mpr early (UInt64.le_iff_toNat_le.mpr (Duration.ofMillis_le_iff.mp late))
  · rintro ⟨queueLimit, warning⟩
    refine ⟨queueLimit, ?_⟩
    intro limited
    apply UInt64.not_le.mp
    intro late
    apply warning
    constructor
    · intro none
      exact limited (UInt64.toNat_inj.mp (Duration.ofMillis_eq_zero_iff.mp none))
    · exact Duration.ofMillis_le_iff.mpr (UInt64.le_iff_toNat_le.mp late)

theorem RestValid.passphrase_given (valid : configuration.RestValid) : configuration.passphrase.isEmpty = false := by
  cases blank : configuration.passphrase.isEmpty with
  | false => rfl
  | true =>
      have trimmed := valid.passphrase
      rw [Text.trim_of_isEmpty blank] at trimmed
      contradiction

theorem le_replayedLedgers :
    configuration.classicRetention ≤ configuration.replayedLedgers ∧
      configuration.contractRetention ≤ configuration.replayedLedgers := by
  simp only [replayedLedgers, UInt32.le_iff_toNat_le, UInt32.toNat_max]
  omega

theorem RestValid.replayedLedgers_pos (valid : configuration.RestValid) : 1 ≤ configuration.replayedLedgers := by
  have positive := UInt32.lt_of_lt_of_le valid.classicRetention le_replayedLedgers.1
  rw [UInt32.le_iff_toNat_le]
  rw [UInt32.lt_iff_toNat_lt] at positive
  exact positive

theorem RestValid.exists_feeBook (valid : configuration.RestValid) : ∃ book, configuration.feeBook = .ok book := by
  rcases FeeBook.covers_empty valid.classicRetention valid.contractRetention configuration.passphrase with
    ⟨book, created, -⟩
  exact ⟨book, created⟩

/--
What is built from an accepted configuration can be built. The conditions on the limits of the whole service are
those of their own validator.
-/
theorem validate_sound {σ : Type} [LedgerSource σ] (configuration : Configuration) :
    (configuration.validate = .ok () →
      (∃ book, configuration.feeBook = .ok book) ∧
      (∀ ledger : ClosedLedger, ledger.transactions configuration.passphrase ≠ .error .missingPassphrase) ∧
      configuration.service.limits.validate = .ok () ∧
      (∃ switchboard, configuration.service.switchboard (σ := σ) = .ok switchboard) ∧
      1 ≤ configuration.replayedLedgers ∧ configuration.classicRetention ≤ configuration.replayedLedgers ∧
      configuration.contractRetention ≤ configuration.replayedLedgers) ∧
    (configuration.validate = .ok () ↔ configuration.RestValid ∧ configuration.LimitsValid) ∧
    (configuration.LimitsValid ↔ configuration.service.limits.validate = .ok ()) := by
  refine ⟨?_, validate_eq_ok_iff, limitsValid_iff⟩
  intro accepted
  rcases validate_eq_ok_iff.mp accepted with ⟨rest, limits⟩
  have valid := limitsValid_iff.mp limits
  refine ⟨rest.exists_feeBook, ?_, valid, ?_, rest.replayedLedgers_pos, le_replayedLedgers⟩
  · exact ClosedLedger.transactions_ne_missingPassphrase rest.passphrase_given
  · exact configuration.service.exists_switchboard_iff.mpr valid

/-- A configuration with a passphrase and nothing else of its own. -/
def named : Configuration := { standard with passphrase := "Test SDF Network ; September 2015" }

theorem validate_sound_named :
    named.validate = .ok () ∧ (∃ book, named.feeBook = .ok book) ∧
      (∃ switchboard, named.service.switchboard (σ := LedgerSession) = .ok switchboard) ∧
      1 ≤ named.replayedLedgers := by
  have accepted : named.validate = .ok () := by rfl
  rcases (validate_sound (σ := LedgerSession) named).1 accepted with ⟨book, -, -, switchboard, replayed, -⟩
  exact ⟨accepted, book, switchboard, replayed⟩

/-- An accepted configuration is not to blame for fee windows or limits when the service does not start. -/
theorem start_of_validate (accepted : configuration.validate = .ok ()) {clock : ClockReading} {fault : StartFault}
    (failed : configuration.start clock = .error fault) :
    (∀ cause, fault ≠ .fees cause) ∧ ∀ cause, fault ≠ .setup cause := by
  rcases (validate_sound (σ := LedgerSession) configuration).1 accepted with
    ⟨⟨book, created⟩, -, -, ⟨switchboard, built⟩, -⟩
  unfold start at failed
  rcases error_of_step failed with ⟨cause, rfl, -⟩ | ⟨database, -, failed⟩
  · simp
  rcases error_of_step failed with ⟨cause, rfl, -⟩ | ⟨migrated, -, failed⟩
  · simp
  rcases error_of_step failed with ⟨cause, -, refused⟩ | ⟨fees, -, failed⟩
  · simp [created] at refused
  rcases error_of_step failed with ⟨cause, rfl, -⟩ | ⟨replayed, -, failed⟩
  · simp
  rcases error_of_step failed with ⟨cause, -, refused⟩ | ⟨made, -, failed⟩
  · simp [built] at refused
  rcases error_of_step failed with ⟨cause, rfl, -⟩ | ⟨address, -, failed⟩
  · simp
  cases failed

end Configuration

end LedgerService
