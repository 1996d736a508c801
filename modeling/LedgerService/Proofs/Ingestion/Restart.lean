import LedgerService.Proofs.Fees.Likeness
import LedgerService.Proofs.Ingestion.Keeping
import LedgerService.Proofs.Ingestion.Replay

/-!
# Restarts

A service that starts again throws its fee book away and replays the last stored ledgers into a new one. Two services
run side by side on the same calls, one of which never stops. Their tables are the same and their books alike after
every stage of an ingestion (`IngestStage.Parallel.step`), and a replay restores the likeness of the books, because it
enters as many of the last ledgers as the larger window retains (`Intake.Unnoticed.restart`). So nobody can tell whether
the service was started again (`Intake.restarts_are_invisible`).
-/

namespace LedgerService

namespace Rehearsal

/-- The stores hold the same table, and the same operations fail on both. -/
structure Alike (store other : Rehearsal LedgerSession) : Prop where
  faults : store.faults = other.faults
  table : store.store.table = other.store.table

/-- The stores are alike, and so are their transactions. -/
structure Twin (store other : Rehearsal LedgerSession) : Prop where
  faults : store.faults = other.faults
  session : store.store = other.store

variable {store other : Rehearsal LedgerSession}

theorem Twin.alike (twin : store.Twin other) : store.Alike other :=
  ⟨twin.faults, congrArg LedgerSession.table twin.session⟩

theorem Twin.perform (twin : store.Twin other) (fault : Option String)
    (operation : LedgerSession → LedgerSession × Except Failure Unit) :
    ∃ after rival result, Rehearsal.perform fault store operation = (after, result) ∧
      Rehearsal.perform fault other operation = (rival, result) ∧ after.Twin rival := by
  cases fault with
  | some text => exact ⟨store, other, _, rfl, rfl, twin⟩
  | none =>
      rw [Rehearsal.perform, Rehearsal.perform, twin.session]
      exact ⟨_, _, _, rfl, rfl, twin.faults, rfl⟩

/-- Whatever transaction was being written, opening another one gives it up. -/
theorem Alike.openTransaction (alike : store.Alike other) :
    (∃ after rival failure, LedgerSink.openTransaction store = (after, .error failure) ∧
      LedgerSink.openTransaction other = (rival, .error failure) ∧ after.Alike rival) ∨
    ∃ after rival, LedgerSink.openTransaction store = (after, .ok ()) ∧
      LedgerSink.openTransaction other = (rival, .ok ()) ∧ after.Twin rival := by
  simp only [LedgerSink.openTransaction, alike.faults]
  cases other.faults.openTransaction with
  | some text =>
      left
      exact ⟨_, _, _, rfl, rfl, rfl, alike.table⟩
  | none =>
      right
      simp only [Rehearsal.perform, alike.table]
      exact ⟨_, _, rfl, rfl, rfl, rfl⟩

theorem Twin.insert (twin : store.Twin other) (ledger : ClosedLedger) :
    ∃ after rival result, LedgerSink.insert ledger store = (after, result) ∧
      LedgerSink.insert ledger other = (rival, result) ∧ after.Twin rival := by
  simp only [LedgerSink.insert, twin.faults]
  apply Twin.perform
  exact ⟨rfl, twin.session⟩

theorem Twin.commit (twin : store.Twin other) :
    ∃ after rival result, LedgerSink.commit store = (after, result) ∧ LedgerSink.commit other = (rival, result) ∧
      after.Twin rival := by
  simp only [LedgerSink.commit, twin.faults]
  apply Twin.perform
  exact ⟨rfl, twin.session⟩

theorem Twin.rollback (twin : store.Twin other) :
    ∃ after rival result, LedgerSink.rollback store = (after, result) ∧ LedgerSink.rollback other = (rival, result) ∧
      after.Twin rival := by
  simp only [LedgerSink.rollback, twin.faults]
  apply Twin.perform
  exact ⟨rfl, twin.session⟩

end Rehearsal

namespace IngestStage

/-- The stores of two ingestions that have come so far: alike before and after the transaction, twins in between. -/
def Match (store other : Rehearsal LedgerSession) : IngestStage → Prop
  | .opening | .ended _ => store.Alike other
  | _ => store.Twin other

theorem Match.alike {store other : Rehearsal LedgerSession} {stage : IngestStage} (stores : stage.Match store other) :
    store.Alike other := by
  cases stage with
  | opening => exact stores
  | ended => exact stores
  | _ => exact Rehearsal.Twin.alike stores

/-- Two ingestions have come equally far. -/
structure Parallel (left right : IngestStage × Rehearsal LedgerSession × FeeBook) : Prop where
  stage : left.1 = right.1
  stores : left.1.Match left.2.1 right.2.1
  books : left.2.2.Alike right.2.2

theorem step_parallel (ledger : ClosedLedger) (stage : IngestStage) {store other : Rehearsal LedgerSession}
    {book rival : FeeBook} (stores : stage.Match store other) (books : book.Alike rival) :
    Parallel (step ledger stage store book) (step ledger stage other rival) := by
  cases stage with
  | opening =>
      rcases stores.openTransaction with
        ⟨after, later, failure, failed, failedToo, alike⟩ | ⟨after, later, opened, openedToo, twin⟩
      · simp only [step, failed, failedToo]
        exact ⟨rfl, alike, books⟩
      · simp only [step, opened, openedToo]
        exact ⟨rfl, twin, books⟩
  | inserting =>
      rcases stores.insert ledger with ⟨after, later, failure | _, inserted, insertedToo, twin⟩
      · simp only [step, inserted, insertedToo]
        exact ⟨rfl, twin, books⟩
      · simp only [step, inserted, insertedToo]
        exact ⟨rfl, twin, books⟩
  | discarding failure =>
      rcases stores.rollback with ⟨after, later, outcome, undone, undoneToo, twin⟩
      simp only [step, undone, undoneToo]
      exact ⟨rfl, twin.alike, books⟩
  | entering =>
      rcases books.append ledger with ⟨results, alike⟩
      rcases entered : book.append ledger with ⟨larger, result⟩
      rcases enteredToo : rival.append ledger with ⟨more, same⟩
      rw [entered, enteredToo] at results alike
      cases results
      cases result with
      | error failure =>
          simp only [step, entered, enteredToo]
          exact ⟨rfl, stores, alike⟩
      | ok =>
          simp only [step, entered, enteredToo]
          exact ⟨rfl, stores, alike⟩
  | abandoning failure =>
      rcases stores.rollback with ⟨after, later, outcome, undone, undoneToo, twin⟩
      simp only [step, undone, undoneToo]
      exact ⟨rfl, twin.alike, books⟩
  | committing =>
      rcases stores.commit with ⟨after, later, outcome, committed, committedToo, twin⟩
      simp only [step, committed, committedToo]
      exact ⟨rfl, twin.alike, books⟩
  | ended result => exact ⟨rfl, stores, books⟩

theorem run_parallel (ledger : ClosedLedger) (count : Nat) (stage : IngestStage) {store other : Rehearsal LedgerSession}
    {book rival : FeeBook} (stores : stage.Match store other) (books : book.Alike rival) :
    Parallel (run ledger count stage store book) (run ledger count stage other rival) := by
  induction count generalizing stage store other book rival with
  | zero => exact ⟨rfl, stores, books⟩
  | succ count ih =>
      have parallel := step_parallel ledger stage stores books
      rw [run, run]
      generalize step ledger stage store book = left at parallel ⊢
      generalize step ledger stage other rival = right at parallel ⊢
      rcases left with ⟨next, after, larger⟩
      rcases right with ⟨nextToo, later, more⟩
      rcases parallel with ⟨same, matching, alike⟩
      cases same
      exact ih next matching alike

end IngestStage

/-- Ingestions into stores and books that are alike end in the same way. -/
theorem ingest_alike (ledger : ClosedLedger) {store other : Rehearsal LedgerSession} {book rival : FeeBook}
    (stores : store.Alike other) (books : book.Alike rival) :
    ∃ after later larger more result, ingest ledger store book = (after, larger, result) ∧
      ingest ledger other rival = (later, more, result) ∧ after.Alike later ∧ larger.Alike more := by
  have parallel := IngestStage.run_parallel ledger 4 .opening stores books
  rw [ingest, ingest]
  generalize IngestStage.run ledger 4 .opening store book = left at parallel ⊢
  generalize IngestStage.run ledger 4 .opening other rival = right at parallel ⊢
  rcases left with ⟨stage, after, larger⟩
  rcases right with ⟨stageToo, later, more⟩
  rcases parallel with ⟨same, matching, alike⟩
  cases same
  cases stage <;> exact ⟨after, later, larger, more, _, rfl, rfl, IngestStage.Match.alike matching, alike⟩

/-- The windows of a service, its network, and the number of ledgers that a replay fetches at a time. -/
structure FeeSetup where
  classic : UInt32
  contract : UInt32
  passphrase : String
  batch : UInt32
  classicPositive : 0 < classic
  contractPositive : 0 < contract
  batchPositive : 0 < batch

/-- What happens to a service: a ledger arrives while some operations of the store fail, or it is started again. -/
inductive ServiceEvent where
  | arrival (call : Faults × ClosedLedger)
  | restart

/-- The ledger that arrives. -/
def ServiceEvent.arrival? : ServiceEvent → Option (Faults × ClosedLedger)
  | .arrival call => some call
  | .restart => none

namespace FeeSetup

/-- The number of ledgers to replay. -/
def retention (setup : FeeSetup) : UInt32 := max setup.classic setup.contract

variable (setup : FeeSetup)

theorem retention_positive : 0 < setup.retention := by
  have positive := UInt32.lt_iff_toNat_lt.mp setup.classicPositive
  rw [UInt32.lt_iff_toNat_lt, retention, SequenceRange.toNat_max]
  omega

theorem classic_le_retention : setup.classic.toNat ≤ setup.retention.toNat := by
  rw [retention, SequenceRange.toNat_max]
  exact Nat.le_max_left _ _

theorem contract_le_retention : setup.contract.toNat ≤ setup.retention.toNat := by
  rw [retention, SequenceRange.toNat_max]
  exact Nat.le_max_right _ _

end FeeSetup

namespace Intake

/-- Throws the book away and replays the last stored ledgers into a new one, while no operation of the store fails. -/
def restart (setup : FeeSetup) (intake : Intake LedgerSession) : Intake LedgerSession × Except Failure UInt32 :=
  match FeeBook.empty setup.classic setup.contract setup.passphrase with
  | .error failure => (intake, .error (.fees failure))
  | .ok fresh =>
    match Replay.runBy setup.batch setup.retention (intake.facing .none) fresh with
    | (store, book, result) => ({ intake with store, book }, result)

/-- What becomes of a service by an event. -/
def meet (setup : FeeSetup) (intake : Intake LedgerSession) : ServiceEvent → Intake LedgerSession
  | .arrival call => (intake.offer call).1
  | .restart => (intake.restart setup).1

/-- What becomes of a service by events. -/
def live (setup : FeeSetup) (intake : Intake LedgerSession) (events : List ServiceEvent) : Intake LedgerSession :=
  events.foldl (meet setup) intake

/-- A service that was started again is like one that was not. -/
structure Unnoticed (setup : FeeSetup) (steady restarted : Intake LedgerSession) : Prop where
  table : restarted.store.store.table = steady.store.store.table
  accepted : restarted.accepted = steady.accepted
  books : restarted.book.Alike steady.book
  agrees : steady.Agrees LedgerSession.view setup.classic.toNat setup.contract.toNat setup.passphrase
  ordered : steady.store.store.Ordered

namespace Unnoticed

variable {setup : FeeSetup} {steady restarted : Intake LedgerSession}

theorem offer (unnoticed : Unnoticed setup steady restarted) (call : Faults × ClosedLedger) :
    (restarted.offer call).2 = (steady.offer call).2 ∧
      (call.1.commit = none → Unnoticed setup (steady.offer call).1 (restarted.offer call).1) := by
  have stores : (restarted.facing call.1).Alike (steady.facing call.1) := ⟨rfl, unnoticed.table⟩
  have ordered := LedgerSession.keeps_ordered.offer steady call unnoticed.ordered
  have agrees : call.1.commit = none → (steady.offer call).1.Agrees LedgerSession.view setup.classic.toNat
      setup.contract.toNat setup.passphrase :=
    unnoticed.agrees.offer fun _ _ writing => LedgerSession.commit_ok writing
  rcases ingest_alike call.2 stores unnoticed.books with
    ⟨after, later, larger, more, result, ended, endedToo, alike, books⟩
  rw [Intake.offer] at ordered agrees ⊢
  rw [Intake.offer, ended]
  rw [endedToo] at ordered agrees ⊢
  cases result with
  | error failure => exact ⟨rfl, fun faultless => ⟨alike.table, unnoticed.accepted, books, agrees faultless, ordered⟩⟩
  | ok =>
      have accepted : restarted.accepted ++ [call.2] = steady.accepted ++ [call.2] := by rw [unnoticed.accepted]
      exact ⟨rfl, fun faultless => ⟨alike.table, accepted, books, agrees faultless, ordered⟩⟩

theorem restart (unnoticed : Unnoticed setup steady restarted)
    (consecutive : ClosedLedger.Consecutive steady.accepted) :
    (restarted.restart setup).2 = .ok (UInt32.ofNat (min setup.retention.toNat steady.accepted.length)) ∧
      Unnoticed setup steady (restarted.restart setup).1 := by
  have stores : (restarted.facing .none).store.table.Stores steady.accepted := by
    rw [facing, unnoticed.table]
    exact unnoticed.agrees.stores unnoticed.ordered consecutive
  rcases FeeBook.covers_empty setup.classicPositive setup.contractPositive setup.passphrase with
    ⟨fresh, created, nothing⟩
  rcases Replay.runBy_of_stores rfl stores setup.batchPositive setup.retention fresh with
    ⟨after, -, table, replayed⟩
  have readable : ∀ ledger ∈ steady.accepted.rtake setup.retention.toNat,
      ledger.fees setup.passphrase = .ok (ledger.charges setup.passphrase) :=
    fun ledger member => unnoticed.agrees.covers.readable ledger (List.mem_of_mem_drop member)
  rcases nothing.appendAll (steady.accepted.rtake setup.retention.toNat) (consecutive.chain.drop _) readable with
    ⟨larger, entered, covers⟩
  have length : (steady.accepted.rtake setup.retention.toNat).length =
      min setup.retention.toNat steady.accepted.length := by
    rw [List.rtake, List.length_drop]
    omega
  have reached : restarted.restart setup =
      (⟨after, larger, restarted.accepted⟩, .ok (UInt32.ofNat (min setup.retention.toNat steady.accepted.length))) := by
    rw [Replay.recent_of_consecutive consecutive setup.retention_positive, Replay.outcome, entered] at replayed
    rw [Intake.restart, created]
    dsimp only
    rw [replayed, length]
  rw [reached]
  exact ⟨rfl, table.trans unnoticed.table, unnoticed.accepted,
    covers.alike unnoticed.agrees.covers setup.classic_le_retention setup.contract_le_retention, unnoticed.agrees,
    unnoticed.ordered⟩

theorem start (setup : FeeSetup) :
    ∃ fresh, FeeBook.empty setup.classic setup.contract setup.passphrase = .ok fresh ∧
      Unnoticed setup ⟨emptyTable, fresh, []⟩ ⟨emptyTable, fresh, []⟩ := by
  rcases FeeBook.covers_empty setup.classicPositive setup.contractPositive setup.passphrase with
    ⟨fresh, created, covers⟩
  refine ⟨fresh, created, rfl, rfl, ?_, ⟨.refl [], covers⟩, LedgerSession.ordered_on rfl .nil⟩
  exact ⟨rfl, ⟨rfl, rfl, rfl⟩, ⟨rfl, rfl, rfl⟩⟩

/-- The ledgers accepted before the last call do not end with the greatest sequence if another follows. -/
theorem unwrapped_of_offer (steady : Intake LedgerSession) (call : Faults × ClosedLedger)
    (unwrapped : ∀ ledger ∈ (steady.offer call).1.accepted.dropLast, ledger.sequence ≠ 4294967295) :
    ∀ ledger ∈ steady.accepted.dropLast, ledger.sequence ≠ 4294967295 := by
  rw [Intake.offer] at unwrapped
  split at unwrapped
  · rw [List.dropLast_concat] at unwrapped
    intro ledger member
    exact unwrapped ledger (List.mem_of_mem_dropLast member)
  · exact unwrapped

theorem live {fresh : FeeBook} (unnoticed : Unnoticed setup ⟨emptyTable, fresh, []⟩ ⟨emptyTable, fresh, []⟩)
    (events : List ServiceEvent) (faultless : ∀ call, .arrival call ∈ events → call.1.commit = none)
    (unwrapped : ∀ ledger ∈ (run ⟨emptyTable, fresh, []⟩ (events.filterMap ServiceEvent.arrival?)).accepted.dropLast,
      ledger.sequence ≠ 4294967295) :
    Unnoticed setup (run ⟨emptyTable, fresh, []⟩ (events.filterMap ServiceEvent.arrival?))
      (Intake.live setup ⟨emptyTable, fresh, []⟩ events) := by
  induction events using List.reverseRecOn with
  | nil => exact unnoticed
  | append_singleton earlier event ih =>
      have before : ∀ call, .arrival call ∈ earlier → call.1.commit = none :=
        fun call member => faultless call (List.mem_append_left _ member)
      rw [List.filterMap_append] at unwrapped ⊢
      rw [Intake.live, List.foldl_append]
      cases event with
      | arrival call =>
          have last := faultless call (List.mem_append_right _ (List.mem_singleton_self _))
          rw [run, List.foldl_append] at unwrapped ⊢
          exact ((ih before (unwrapped_of_offer _ call unwrapped)).offer call).2 last
      | restart =>
          rw [List.filterMap_cons_none rfl, List.filterMap_nil, List.append_nil] at unwrapped ⊢
          have reached := ih before unwrapped
          exact (reached.restart ⟨reached.agrees.covers.consecutive, unwrapped⟩).2

end Unnoticed

/--
Whenever a service is started again, the replay succeeds and enters as many of the stored ledgers as the larger window
retains. Apart from that the service is what it would be without the restarts: it has accepted and stored the same
ledgers, its windows are the same, and the next ledger will be met with the same answer.
-/
theorem restarts_are_invisible (setup : FeeSetup) :
    ∃ fresh, FeeBook.empty setup.classic setup.contract setup.passphrase = .ok fresh ∧
      ∀ events : List ServiceEvent, (∀ call, .arrival call ∈ events → call.1.commit = none) →
        let steady := run ⟨emptyTable, fresh, []⟩ (events.filterMap ServiceEvent.arrival?)
        let restarted := Intake.live setup ⟨emptyTable, fresh, []⟩ events
        (∀ ledger ∈ steady.accepted.dropLast, ledger.sequence ≠ 4294967295) →
          restarted.accepted = steady.accepted ∧
          restarted.store.store.table.rows = steady.store.store.table.rows ∧
          restarted.book.classic.Alike steady.book.classic ∧
          restarted.book.classic.latest? = steady.book.classic.latest? ∧
          restarted.book.contract.Alike steady.book.contract ∧
          restarted.book.contract.latest? = steady.book.contract.latest? ∧
          (∀ call, (restarted.offer call).2 = (steady.offer call).2) ∧
          (restarted.restart setup).2 =
            .ok (UInt32.ofNat (min setup.retention.toNat restarted.store.store.table.rows.length)) := by
  rcases Unnoticed.start setup with ⟨fresh, created, start⟩
  refine ⟨fresh, created, ?_⟩
  intro events faultless steady restarted unwrapped
  have unnoticed := start.live events faultless unwrapped
  have kept := unnoticed.agrees.stored.length_eq
  rw [List.length_map] at kept
  have stored : restarted.store.store.table.rows.length = steady.accepted.length :=
    (congrArg (fun table => table.rows.length) unnoticed.table).trans kept
  rw [stored]
  exact ⟨unnoticed.accepted, congrArg LedgerTable.rows unnoticed.table, unnoticed.books.classic,
    unnoticed.books.classic.latest?, unnoticed.books.contract, unnoticed.books.contract.latest?,
    fun call => (unnoticed.offer call).1, (unnoticed.restart ⟨unnoticed.agrees.covers.consecutive, unwrapped⟩).1⟩

/-- Windows of two and of one ledger, and batches of one. -/
def smallSetup : FeeSetup := ⟨2, 1, "network", 1, by decide, by decide, by decide⟩

/-- Four ledgers are accepted and one is refused; the service is started again three times. -/
def eightEvents : List ServiceEvent :=
  [.restart, .arrival (Faults.none, payments 7 [100]), .arrival (Faults.none, payments 8 [200, 150]), .restart,
    .arrival (Faults.none, payments 8 [300]), .arrival (Faults.none, payments 9 [250]), .restart,
    .arrival (Faults.none, payments 10 [])]

theorem invisible_after_eightEvents :
    ∃ fresh, FeeBook.empty 2 1 "network" = .ok fresh ∧
      let steady := run ⟨emptyTable, fresh, []⟩ (eightEvents.filterMap ServiceEvent.arrival?)
      let restarted := live smallSetup ⟨emptyTable, fresh, []⟩ eightEvents
      restarted.accepted = [payments 7 [100], payments 8 [200, 150], payments 9 [250], payments 10 []] ∧
        restarted.book.classic.Alike steady.book.classic ∧ restarted.book.contract.Alike steady.book.contract ∧
        (restarted.restart smallSetup).2 = .ok (UInt32.ofNat (min 2 restarted.store.store.table.rows.length)) := by
  have faultless : ∀ call, .arrival call ∈ eightEvents → call.1.commit = none := by
    intro call member
    simp only [eightEvents, List.mem_cons, ServiceEvent.arrival.injEq, reduceCtorEq, List.not_mem_nil, false_or,
      or_false] at member
    rcases member with rfl | rfl | rfl | rfl | rfl <;> rfl
  have outcome : ((FeeBook.empty 2 1 "network").toOption.map fun book =>
      (run ⟨emptyTable, book, []⟩ (eightEvents.filterMap ServiceEvent.arrival?)).accepted) =
        some [payments 7 [100], payments 8 [200, 150], payments 9 [250], payments 10 []] := by decide +kernel
  rcases restarts_are_invisible smallSetup with ⟨fresh, created, invisible⟩
  have empty : FeeBook.empty 2 1 "network" = .ok fresh := created
  rw [empty] at outcome
  have accepted := Option.some.inj outcome
  dsimp only at accepted
  have unwrapped : ∀ ledger ∈
      (run ⟨emptyTable, fresh, []⟩ (eightEvents.filterMap ServiceEvent.arrival?)).accepted.dropLast,
        ledger.sequence ≠ 4294967295 := by
    rw [accepted]
    decide
  rcases invisible eightEvents faultless unwrapped with ⟨same, -, classic, -, contract, -, -, replayed⟩
  exact ⟨fresh, empty, same.trans accepted, classic, contract, replayed⟩

end Intake

end LedgerService
