import LedgerService.Proofs.Ingestion.Replay

/-!
# How transactions are finished

A logbook takes down what is asked of the writing side of a store, and how it is answered. What an ingestion and a
replay do is said in one equation each (`ingest_eq`, `Replay.runBy_eq`): a replay reads the same ledgers whatever the
book makes of them, so it only matters whether the book refuses one of them before a read fails. Each of the ways in
which a call can end leaves a log of its own (`Logbook.Concluded`), from which one reads that no transaction is used
after it has been committed or rolled back (`Logbook.transactions_finished`).
-/

namespace LedgerService

variable {σ : Type}

/-- An ingestion, stage by stage: each stage but the last may fail, and the transaction is then rolled back. -/
theorem ingest_eq [LedgerSink σ] (ledger : ClosedLedger) (store : σ) (book : FeeBook) :
    ingest ledger store book =
      match LedgerSink.openTransaction store with
      | (opened, .error failure) => (opened, book, .error failure)
      | (opened, .ok ()) =>
        match LedgerSink.insert ledger opened with
        | (inserted, .error failure) => ((LedgerSink.rollback inserted).1, book, .error failure)
        | (inserted, .ok ()) =>
          match book.append ledger with
          | (larger, .error cause) =>
            ((LedgerSink.rollback inserted).1, larger,
              .error (.fees (cause.afterRollback (LedgerSink.rollback inserted).2)))
          | (larger, .ok ()) => ((LedgerSink.commit inserted).1, larger, (LedgerSink.commit inserted).2) := by
  unfold ingest
  rcases opening : LedgerSink.openTransaction store with ⟨opened, failure | _⟩
  · simp only [IngestStage.run, IngestStage.step, opening]
  · rcases inserting : LedgerSink.insert ledger opened with ⟨inserted, failure | _⟩
    · simp only [IngestStage.run, IngestStage.step, opening, inserting]
    · rcases entering : book.append ledger with ⟨larger, cause | _⟩
      · simp only [IngestStage.run, IngestStage.step, opening, inserting, entering]
      · simp only [IngestStage.run, IngestStage.step, opening, inserting, entering]

namespace Replay

/-- The ledgers that a replay fetches while the book takes them, and the failure to read more if there is one. -/
def fetch [LedgerSource σ] (store : σ) (size last : UInt32) : Nat → UInt32 → List ClosedLedger × Option Failure
  | 0, _ => ([], none)
  | fuel + 1, next =>
    if last < next then ([], none)
    else
      match LedgerSource.ledgers store next (min size (last - next + 1)) with
      | .error failure => ([], some failure)
      | .ok ledgers =>
        match ledgers.getLast? with
        | none => ([], none)
        | some newest =>
          if newest.sequence < last then
            let (others, failure) := fetch store size last fuel (newest.sequence + 1)
            (ledgers ++ others, failure)
          else (ledgers, none)

section

variable [LedgerSink σ]

theorem enterAll_eq (ledgers : List ClosedLedger) (store : σ) (book : FeeBook) (count : UInt32) :
    enterAll ledgers store book count = entered ledgers store book count := by
  induction ledgers generalizing book count with
  | nil => simp [enterAll, entered, FeeBook.appendAll]
  | cons ledger others ih =>
      have longer : count + 1 + UInt32.ofNat others.length = count + UInt32.ofNat (ledger :: others).length := by
        rw [List.length_cons, Nat.add_comm, UInt32.ofNat_add, UInt32.add_assoc]
        rfl
      simp only [enterAll, FeeBook.enter, entered, FeeBook.appendAll]
      rcases book.append ledger with ⟨larger, failure | _⟩
      · rfl
      · simp only [ih, entered, longer]

/-- The outcome of a replay whose store cannot be read any further, unless the book has refused a ledger before. -/
def cutShort (unread : Option Failure) (reached : σ × FeeBook × Except Failure UInt32) :
    σ × FeeBook × Except Failure UInt32 :=
  match reached, unread with
  | (store, book, .ok _), some failure => (store, book, .error failure)
  | reached, _ => reached

/-- What is read does not depend on the book, so the batches may as well be entered after all have been read. -/
theorem batches_eq [LedgerSource σ] (size last : UInt32) (fuel : Nat) (next : UInt32) (store : σ) (book : FeeBook)
    (count : UInt32) :
    batches size last fuel next store book count =
      cutShort (fetch store size last fuel next).2
        (concluded (entered (fetch store size last fuel next).1 store book count)) := by
  have idle : entered [] store book count = (store, book, .ok count) := by
    simp [entered, FeeBook.appendAll]
  induction fuel generalizing next book count with
  | zero =>
      rw [batches, fetch, idle]
      rfl
  | succ fuel ih =>
      rw [batches, fetch]
      by_cases past : last < next
      · rw [if_pos past, if_pos past, idle]
        rfl
      · rw [if_neg past, if_neg past]
        rcases LedgerSource.ledgers store next (min size (last - next + 1)) with failure | ledgers
        · dsimp only
          rw [idle]
          rfl
        · simp only [enterAll_eq]
          rcases final : ledgers.getLast? with _ | newest
          · rw [List.getLast?_eq_none_iff.mp final, idle]
            rfl
          · by_cases earlier : newest.sequence < last
            · simp only [if_pos earlier, entered_append]
              rcases done : entered ledgers store book count with ⟨after, larger, failure | more⟩
              · rfl
              · rw [(store_of_entered done).1]
                exact ih (newest.sequence + 1) larger more (by simp [entered, FeeBook.appendAll])
            · simp only [if_neg earlier]
              rcases entered ledgers store book count with ⟨after, larger, failure | more⟩
              · rfl
              · rfl

/-- The last ledgers of a range, as a replay fetches them. -/
def wanted [LedgerSource σ] (size retention : UInt32) (range : SequenceRange) (store : σ) :
    List ClosedLedger × Option Failure :=
  fetch store size (range.tail retention).last batchLimit (range.tail retention).first

theorem runBy_eq [LedgerSource σ] (size retention : UInt32) (store : σ) (book : FeeBook) :
    runBy size retention store book =
      match LedgerSource.range store with
      | .error failure => (store, book, .error failure)
      | .ok none => (store, book, .ok 0)
      | .ok (some range) =>
        match LedgerSink.openTransaction store with
        | (opened, .error failure) => (opened, book, .error failure)
        | (opened, .ok ()) =>
          match book.appendAll (wanted size retention range opened).1, (wanted size retention range opened).2 with
          | (larger, .error cause), _ =>
            ((LedgerSink.rollback opened).1, larger,
              .error (.fees (cause.afterRollback (LedgerSink.rollback opened).2)))
          | (larger, .ok ()), some failure => (opened, larger, .error failure)
          | (larger, .ok ()), none =>
            ((LedgerSink.commit opened).1, larger, (LedgerSink.commit opened).2.map fun _ =>
              UInt32.ofNat (wanted size retention range opened).1.length) := by
  rw [runBy]
  rcases LedgerSource.range store with failure | _ | range
  · rfl
  · rfl
  · rcases LedgerSink.openTransaction store with ⟨opened, failure | _⟩
    · rfl
    · have read := batches_eq size (range.tail retention).last batchLimit (range.tail retention).first opened book 0
      rw [← wanted] at read
      dsimp only
      rw [read]
      generalize wanted size retention range opened = fetched
      rcases fetched with ⟨ledgers, unread⟩
      rw [entered]
      rcases book.appendAll ledgers with ⟨larger, cause | _⟩
      · rfl
      · rcases unread with _ | failure
        · simp only [cutShort, concluded, Except.mapError, UInt32.zero_add]
          rcases LedgerSink.commit opened with ⟨closed, failure | _⟩
          · rfl
          · rfl
        · rfl

end

end Replay

/-- A call to the writing side of a store, and how it was answered. -/
structure LogEntry where
  call : StoreCall
  answer : Except Failure Unit

/-- The call with the wording of its answer. -/
def LogEntry.told (entry : LogEntry) : StoreCall × Except String Unit :=
  (entry.call, entry.answer.mapError Failure.message)

namespace StoreCall

/-- The call finishes the transaction. -/
@[simp]
def finishes : StoreCall → Bool
  | .commit | .rollback => true
  | .openTransaction | .insert _ => false

/-- The call gives the transaction up. -/
@[simp]
def isRollback : StoreCall → Bool
  | .rollback => true
  | .openTransaction | .insert _ | .commit => false

end StoreCall

/-- A store, and the calls to its writing side in their order. -/
structure Logbook (σ : Type) where
  store : σ
  entries : List LogEntry

namespace Logbook

/-- A store to which no call has been made yet. -/
def on (store : σ) : Logbook σ := ⟨store, []⟩

/-- Takes a call down that the store has answered. -/
def note (logbook : Logbook σ) (call : StoreCall) (answered : σ × Except Failure Unit) :
    Logbook σ × Except Failure Unit :=
  (⟨answered.1, logbook.entries ++ [⟨call, answered.2⟩]⟩, answered.2)

instance [LedgerSource σ] : LedgerSource (Logbook σ) where
  range logbook := LedgerSource.range logbook.store
  latest logbook := LedgerSource.latest logbook.store
  ledgers logbook := LedgerSource.ledgers logbook.store

instance [LedgerSink σ] : LedgerSink (Logbook σ) where
  openTransaction logbook := logbook.note .openTransaction (LedgerSink.openTransaction logbook.store)
  insert ledger logbook := logbook.note (.insert ledger) (LedgerSink.insert ledger logbook.store)
  commit logbook := logbook.note .commit (LedgerSink.commit logbook.store)
  rollback logbook := logbook.note .rollback (LedgerSink.rollback logbook.store)

/-- The calls of one transaction. It is opened once and first, used only if that succeeded, and finished last. -/
structure Orderly (entries : List LogEntry) : Prop where
  opened : ∀ first ∈ entries.head?, first.call = .openTransaction
  used : entries.Pairwise fun earlier later => later.call ≠ .openTransaction ∧
    (earlier.call = .openTransaction → earlier.answer = .ok ())
  last : entries.Pairwise fun earlier _ => earlier.call.finishes = false
  once : entries.countP (fun entry => entry.call.finishes) ≤ 1

/--
What the log of a call says about its result, where there may be nothing to do, the book may refuse a ledger that the
call enters, and the store may be unreadable.
-/
structure Concluded (entries : List LogEntry) (Idle : Prop) (Refused : FeeFailure → Prop) (Unread : Failure → Prop)
    (result : Except Failure Unit) : Prop where
  orderly : Orderly entries
  idle : Idle → entries = []
  succeeds : result = .ok () ↔ ⟨.commit, .ok ()⟩ ∈ entries ∨ Idle
  rolledBack : entries.countP (fun entry => entry.call.isRollback) = 1 ↔
    (∃ ledger failure, ⟨.insert ledger, .error failure⟩ ∈ entries) ∨ ∃ cause, Refused cause
  inserting : ∀ ledger failure, ⟨.insert ledger, .error failure⟩ ∈ entries → result = .error failure
  refusing : ∀ cause, Refused cause →
    ∃ outcome, ⟨.rollback, outcome⟩ ∈ entries ∧ result = .error (.fees (cause.afterRollback outcome))
  failing : ∀ failure, result = .error failure →
    (∃ ledger, ⟨.insert ledger, .error failure⟩ ∈ entries) ∨ (∃ cause, Refused cause) ∨
      ⟨.openTransaction, .error failure⟩ ∈ entries ∨ ⟨.commit, .error failure⟩ ∈ entries ∨ Unread failure

/-- A transaction that was opened, with ledgers that were inserted, and what came after. -/
def begun (ledgers : List ClosedLedger) (rest : List LogEntry) : List LogEntry :=
  ⟨.openTransaction, .ok ()⟩ :: (ledgers.map (fun ledger => ⟨.insert ledger, .ok ()⟩) ++ rest)

@[simp]
theorem mem_begun {ledgers : List ClosedLedger} {rest : List LogEntry} {entry : LogEntry} :
    entry ∈ begun ledgers rest ↔
      entry = ⟨.openTransaction, .ok ()⟩ ∨ (∃ ledger ∈ ledgers, entry = ⟨.insert ledger, .ok ()⟩) ∨ entry ∈ rest := by
  simp [begun, eq_comm]

theorem countP_begun (ledgers : List ClosedLedger) (rest : List LogEntry) {counted : LogEntry → Bool}
    (opening : counted ⟨.openTransaction, .ok ()⟩ = false)
    (inserting : ∀ ledger, counted ⟨.insert ledger, .ok ()⟩ = false) :
    (begun ledgers rest).countP counted = rest.countP counted := by
  simp [begun, opening, inserting, List.countP_map, Function.comp_def]

theorem pairwise_begun {ledgers : List ClosedLedger} {rest : List LogEntry} {relation : LogEntry → LogEntry → Prop}
    (opening : ∀ later, later.call ≠ .openTransaction → relation ⟨.openTransaction, .ok ()⟩ later)
    (inserting : ∀ ledger later, later.call ≠ .openTransaction → relation ⟨.insert ledger, .ok ()⟩ later)
    (used : ∀ entry ∈ rest, entry.call ≠ .openTransaction) (others : rest.Pairwise relation) :
    (begun ledgers rest).Pairwise relation := by
  apply List.pairwise_cons.mpr
  constructor
  · intro later member
    apply opening
    rcases List.mem_append.mp member with inserted | after
    · rcases List.mem_map.mp inserted with ⟨ledger, -, rfl⟩
      simp
    · exact used later after
  · apply List.pairwise_append.mpr
    refine ⟨List.pairwise_map.mpr (List.pairwise_of_forall fun _ _ => inserting _ _ (by simp)), others, ?_⟩
    intro earlier inserted later after
    rcases List.mem_map.mp inserted with ⟨ledger, -, rfl⟩
    exact inserting ledger later (used later after)

theorem Orderly.nil : Orderly [] := by
  constructor <;> simp

theorem Orderly.begun (ledgers : List ClosedLedger) {rest : List LogEntry}
    (used : ∀ entry ∈ rest, entry.call ≠ .openTransaction)
    (last : rest.Pairwise fun earlier _ => earlier.call.finishes = false)
    (once : rest.countP (fun entry => entry.call.finishes) ≤ 1) : Orderly (begun ledgers rest) := by
  refine ⟨?_, ?_, ?_, ?_⟩
  · simp [Logbook.begun]
  · apply pairwise_begun (by simp) (by simp) used
    apply List.Pairwise.imp_of_mem _ last
    intro earlier later member others _
    exact ⟨used later others, fun opening => absurd opening (used earlier member)⟩
  · exact pairwise_begun (by simp) (by simp) used last
  · rwa [countP_begun ledgers rest rfl fun _ => rfl]

/-! ### The ways in which a call ends -/

namespace Concluded

variable {Idle : Prop} {Refused : FeeFailure → Prop} {Unread : Failure → Prop} {failure : Failure}

theorem empty (idle : Idle) (never : ∀ cause, ¬Refused cause) : Concluded [] Idle Refused Unread (.ok ()) where
  orderly := .nil
  idle _ := rfl
  succeeds := by simp [idle]
  rolledBack := by simp [never]
  inserting := by simp
  refusing cause refused := absurd refused (never cause)
  failing := by simp

theorem unread (working : ¬Idle) (unreadable : Unread failure) (never : ∀ cause, ¬Refused cause) :
    Concluded [] Idle Refused Unread (.error failure) where
  orderly := .nil
  idle _ := rfl
  succeeds := by simp [working]
  rolledBack := by simp [never]
  inserting := by simp
  refusing cause refused := absurd refused (never cause)
  failing := by simp [unreadable]

theorem unopened (working : ¬Idle) (never : ∀ cause, ¬Refused cause) :
    Concluded [⟨.openTransaction, .error failure⟩] Idle Refused Unread (.error failure) where
  orderly := ⟨by simp, List.pairwise_singleton _ _, List.pairwise_singleton _ _, by simp⟩
  idle idle := absurd idle working
  succeeds := by simp [working]
  rolledBack := by simp [never]
  inserting := by simp
  refusing cause refused := absurd refused (never cause)
  failing := by simp

theorem discarded (ledger : ClosedLedger) (outcome : Except Failure Unit) (working : ¬Idle)
    (never : ∀ cause, ¬Refused cause) :
    Concluded (begun [] [⟨.insert ledger, .error failure⟩, ⟨.rollback, outcome⟩]) Idle Refused Unread
      (.error failure) where
  orderly := .begun [] (by simp) (by simp) (by simp)
  idle idle := absurd idle working
  succeeds := by simp [working]
  rolledBack := by simp [countP_begun]
  inserting := by simp
  refusing cause refused := absurd refused (never cause)
  failing := by simp

theorem abandoned (ledgers : List ClosedLedger) {cause : FeeFailure} (outcome : Except Failure Unit) (working : ¬Idle)
    (refused : Refused cause) (only : ∀ other, Refused other → other = cause) :
    Concluded (begun ledgers [⟨.rollback, outcome⟩]) Idle Refused Unread
      (.error (.fees (cause.afterRollback outcome))) where
  orderly := .begun ledgers (by simp) (by simp) (by simp)
  idle idle := absurd idle working
  succeeds := by simp [working]
  rolledBack := iff_of_true (by simp [countP_begun]) (.inr ⟨cause, refused⟩)
  inserting := by simp
  refusing other found := ⟨outcome, by simp, by rw [only other found]⟩
  failing _ _ := .inr (.inl ⟨cause, refused⟩)

theorem dropped (working : ¬Idle) (unreadable : Unread failure) (never : ∀ cause, ¬Refused cause) :
    Concluded (begun [] []) Idle Refused Unread (.error failure) where
  orderly := .begun [] (by simp) .nil (by simp)
  idle idle := absurd idle working
  succeeds := by simp [working]
  rolledBack := by simp [countP_begun, never]
  inserting := by simp
  refusing cause refused := absurd refused (never cause)
  failing := by simp [unreadable]

theorem committed (ledgers : List ClosedLedger) (outcome : Except Failure Unit) (working : ¬Idle)
    (never : ∀ cause, ¬Refused cause) :
    Concluded (begun ledgers [⟨.commit, outcome⟩]) Idle Refused Unread outcome where
  orderly := .begun ledgers (by simp) (by simp) (by simp)
  idle idle := absurd idle working
  succeeds := by simp [eq_comm, working]
  rolledBack := by simp [countP_begun, never]
  inserting := by simp
  refusing cause refused := absurd refused (never cause)
  failing failure failed := by simp [failed]

end Concluded

end Logbook

/-- What is asked of an active transaction is never refused on the grounds that it is finished. -/
structure LedgerSink.Guards [LedgerSink σ] (active : σ → Prop) : Prop where
  unopened : ∀ store : σ, (LedgerSink.openTransaction store).2 ≠ .error LedgerTable.finished
  opened : ∀ {store after : σ}, LedgerSink.openTransaction store = (after, .ok ()) → active after
  inserted : ∀ ledger {store : σ}, active store → active (LedgerSink.insert ledger store).1
  inserting : ∀ ledger {store : σ}, active store → (LedgerSink.insert ledger store).2 ≠ .error LedgerTable.finished
  committing : ∀ {store : σ}, active store → (LedgerSink.commit store).2 ≠ .error LedgerTable.finished
  rollingBack : ∀ {store : σ}, active store → (LedgerSink.rollback store).2 ≠ .error LedgerTable.finished

theorem LedgerTable.addTo_ne_finished (table : LedgerTable) (added : List LedgerRow) (row : LedgerRow) :
    table.addTo added row ≠ .error finished := by
  rw [addTo]
  split
  · simp [missing, finished]
  · split
    · simp [taken, finished]
    · simp

theorem Rehearsal.perform_ne_finished {operation : σ → σ × Except Failure Unit} {rehearsal : Rehearsal σ}
    (unfinished : (operation rehearsal.store).2 ≠ .error LedgerTable.finished) (fault : Option String) :
    (perform fault rehearsal operation).2 ≠ .error LedgerTable.finished := by
  cases fault with
  | none => exact unfinished
  | some text => simp [perform, LedgerTable.finished]

namespace LedgerSink.Guards

theorem session : Guards fun session : LedgerSession => session.transaction.added.isSome = true where
  unopened _ := nofun
  opened reached := by
    cases reached
    rfl
  inserted ledger session active := by
    rcases LedgerSession.insert_cases ledger session with ⟨failure, refused⟩ | ⟨added, -, -, inserted⟩
    · rw [refused]
      exact active
    · rw [inserted]
      rfl
  inserting ledger session active := by
    rcases Option.isSome_iff_exists.mp active with ⟨added, writing⟩
    simp only [LedgerSink.insert, LedgerTransactionState.insert, writing]
    rcases fits : session.table.addTo added ledger.row with failure | larger
    · have other := session.table.addTo_ne_finished added ledger.row
      rw [fits] at other
      simpa using other
    · simp
  committing active := by
    rcases Option.isSome_iff_exists.mp active with ⟨added, writing⟩
    simp [LedgerSession.commit_ok writing]
  rollingBack active := by
    rcases Option.isSome_iff_exists.mp active with ⟨added, writing⟩
    simp [LedgerSink.rollback, LedgerTransactionState.rollback, writing]

theorem rehearsed [LedgerSink σ] {active : σ → Prop} (guards : Guards active) :
    Guards fun rehearsal : Rehearsal σ => active rehearsal.store where
  unopened rehearsal := by
    apply Rehearsal.perform_ne_finished
    exact guards.unopened rehearsal.store
  opened reached := guards.opened (Rehearsal.open_ok reached)
  inserted ledger rehearsal active := by
    simp only [LedgerSink.insert]
    cases rehearsal.faults.insert with
    | none => exact guards.inserted ledger active
    | some text => exact active
  inserting ledger _ active := by
    apply Rehearsal.perform_ne_finished
    exact guards.inserting ledger active
  committing active := by
    apply Rehearsal.perform_ne_finished
    exact guards.committing active
  rollingBack active := by
    apply Rehearsal.perform_ne_finished
    exact guards.rollingBack active

end LedgerSink.Guards

namespace Logbook

theorem wanted_eq [LedgerSource σ] (size retention : UInt32) (range : SequenceRange) (logbook : Logbook σ) :
    Replay.wanted size retention range logbook = Replay.wanted size retention range logbook.store := by
  rw [Replay.wanted, Replay.wanted]
  generalize Replay.batchLimit = fuel
  generalize (range.tail retention).first = next
  induction fuel generalizing next with
  | zero => rfl
  | succ fuel ih =>
      simp only [Replay.fetch, ih]
      rfl

variable [LedgerSink σ]

@[simp]
theorem openTransaction_eq (logbook : Logbook σ) : LedgerSink.openTransaction logbook =
    logbook.note .openTransaction (LedgerSink.openTransaction logbook.store) := rfl

@[simp]
theorem insert_eq (ledger : ClosedLedger) (logbook : Logbook σ) : LedgerSink.insert ledger logbook =
    logbook.note (.insert ledger) (LedgerSink.insert ledger logbook.store) := rfl

@[simp]
theorem commit_eq (logbook : Logbook σ) : LedgerSink.commit logbook =
    logbook.note .commit (LedgerSink.commit logbook.store) := rfl

@[simp]
theorem rollback_eq (logbook : Logbook σ) : LedgerSink.rollback logbook =
    logbook.note .rollback (LedgerSink.rollback logbook.store) := rfl

/-- No call is refused on the grounds that the transaction is finished. -/
def NeverFinished (entries : List LogEntry) : Prop := ∀ entry ∈ entries, entry.answer ≠ .error LedgerTable.finished

theorem NeverFinished.nil : NeverFinished [] := by
  simp [NeverFinished]

theorem NeverFinished.begun (ledgers : List ClosedLedger) {rest : List LogEntry} (others : NeverFinished rest) :
    NeverFinished (begun ledgers rest) := by
  intro entry member
  rcases mem_begun.mp member with rfl | ⟨ledger, -, rfl⟩ | later
  · simp
  · simp
  · exact others entry later

theorem NeverFinished.single {entry : LogEntry} (answered : entry.answer ≠ .error LedgerTable.finished) :
    NeverFinished [entry] := by
  simpa [NeverFinished] using answered

/--
What a call asked of a store is in the log of the same call to the logged store, and the log says how the transaction
was finished.
-/
structure Transacted {α : Type} (plain : σ × FeeBook × Except Failure α)
    (logged : Logbook σ × FeeBook × Except Failure α) (Idle : Prop) (Refused : FeeFailure → Prop)
    (Unread : Failure → Prop) : Prop where
  same : plain = (logged.1.store, logged.2)
  concluded : Concluded logged.1.entries Idle Refused Unread (logged.2.2.map fun _ => ())
  unfinished : ∀ active : σ → Prop, LedgerSink.Guards active → NeverFinished logged.1.entries

theorem map_unit (result : Except Failure Unit) : (result.map fun _ => ()) = result := by
  cases result with
  | error failure => rfl
  | ok value => rfl

theorem transacted_ingest (ledger : ClosedLedger) (store : σ) (book : FeeBook) :
    let call := ingest ledger (on store) book
    Transacted (ingest ledger store book) call False
      (fun cause => ⟨.insert ledger, .ok ()⟩ ∈ call.1.entries ∧ (book.append ledger).2 = .error cause)
      (fun _ => False) := by
  intro call
  have logged : call = _ := ingest_eq ledger (on store) book
  clear_value call
  rw [ingest_eq]
  simp only [openTransaction_eq, insert_eq, commit_eq, rollback_eq, note, on, List.nil_append] at logged
  rcases opening : LedgerSink.openTransaction store with ⟨opened, failure | ⟨⟩⟩
  · simp only [opening] at logged
    subst logged
    refine ⟨rfl, .unopened not_false (by simp), ?_⟩
    intro active guards
    exact .single (by simpa [opening] using guards.unopened store)
  · rcases inserting : LedgerSink.insert ledger opened with ⟨inserted, failure | ⟨⟩⟩
    · simp only [opening, inserting] at logged ⊢
      subst logged
      refine ⟨rfl, .discarded ledger _ not_false (by simp), ?_⟩
      intro active guards
      have begun := guards.opened opening
      have used := guards.inserted ledger begun
      have refused := guards.inserting ledger begun
      rw [inserting] at used refused
      exact .begun [] (by simpa [NeverFinished, guards.rollingBack used] using refused)
    · have active {active : σ → Prop} (guards : LedgerSink.Guards active) : active inserted := by
        have used := guards.inserted ledger (guards.opened opening)
        rwa [inserting] at used
      rcases entering : book.append ledger with ⟨larger, cause | ⟨⟩⟩
      · simp only [opening, inserting, entering] at logged ⊢
        subst logged
        refine ⟨rfl, .abandoned [ledger] _ not_false (by simp) (by simp), ?_⟩
        exact fun _ guards => .begun [ledger] (.single (guards.rollingBack (active guards)))
      · simp only [opening, inserting, entering] at logged ⊢
        subst logged
        refine ⟨rfl, ?_, ?_⟩
        · rw [map_unit]
          exact .committed [ledger] _ not_false (by simp)
        · exact fun _ guards => .begun [ledger] (.single (guards.committing (active guards)))

theorem transacted_replay [LedgerSource σ] (size retention : UInt32) (store : σ) (book : FeeBook) :
    let call := Replay.runBy size retention (on store) book
    let opened := (LedgerSink.openTransaction store).1
    Transacted (Replay.runBy size retention store book) call (LedgerSource.range store = .ok none)
      (fun cause => ⟨.openTransaction, .ok ()⟩ ∈ call.1.entries ∧ ∃ range, LedgerSource.range store = .ok (some range) ∧
        (book.appendAll (Replay.wanted size retention range opened).1).2 = .error cause)
      (fun failure => LedgerSource.range store = .error failure ∨ ∃ range, LedgerSource.range store = .ok (some range) ∧
        (Replay.wanted size retention range opened).2 = some failure) := by
  intro call opened
  have logged : call = _ := Replay.runBy_eq size retention (on store) book
  clear_value call
  have same : LedgerSource.range (on store) = LedgerSource.range store := rfl
  rw [same] at logged
  rw [Replay.runBy_eq]
  simp only [openTransaction_eq, commit_eq, rollback_eq, wanted_eq, note, on, List.nil_append] at logged
  rcases ranged : LedgerSource.range store with failure | _ | range
  · simp only [ranged] at logged
    subst logged
    exact ⟨rfl, .unread (by simp) (by simp) (by simp), fun _ _ => .nil⟩
  · simp only [ranged] at logged
    subst logged
    exact ⟨rfl, .empty rfl (by simp), fun _ _ => .nil⟩
  · simp only [ranged] at logged
    rcases opening : LedgerSink.openTransaction store with ⟨begun, failure | ⟨⟩⟩
    · simp only [opening] at logged
      subst logged
      refine ⟨rfl, .unopened nofun (by simp), ?_⟩
      intro active guards
      exact .single (by simpa [opening] using guards.unopened store)
    · simp only [opened, opening, Except.ok.injEq, Option.some.injEq, exists_eq_left', reduceCtorEq, false_or]
        at logged ⊢
      generalize Replay.wanted size retention range begun = fetched at logged ⊢
      rcases fetched with ⟨ledgers, unread⟩
      rcases entering : book.appendAll ledgers with ⟨larger, cause | ⟨⟩⟩
      · simp only [entering] at logged ⊢
        subst logged
        refine ⟨rfl, .abandoned [] _ not_false (by simp) (by simp), ?_⟩
        exact fun _ guards => .begun [] (.single (guards.rollingBack (guards.opened opening)))
      · rcases unread with _ | failure
        · simp only [entering] at logged ⊢
          subst logged
          refine ⟨rfl, ?_, ?_⟩
          · rcases (LedgerSink.commit begun).2 with failure | ⟨⟩
            · exact .committed [] _ not_false (by simp)
            · exact .committed [] _ not_false (by simp)
          · exact fun _ guards => .begun [] (.single (guards.committing (guards.opened opening)))
        · simp only [entering] at logged ⊢
          subst logged
          exact ⟨rfl, .dropped not_false rfl (by simp), fun _ _ => .begun [] .nil⟩

/--
Every transaction is finished properly, whatever the store answers. What an ingestion or a replay asks of a transaction
is asked in order: it is opened first, finished at most once, and not used any more after that, and therefore never
refused for being finished. The call succeeds just if the transaction was committed or there was nothing to replay. The
transaction is rolled back just if a ledger was refused, by the store or by the book, and every failure is accounted
for.
-/
theorem transactions_finished [LedgerSource σ] (store : σ) (book : FeeBook) :
    (∀ ledger,
      let call := ingest ledger (on store) book
      Transacted (ingest ledger store book) call False
        (fun cause => ⟨.insert ledger, .ok ()⟩ ∈ call.1.entries ∧ (book.append ledger).2 = .error cause)
        (fun _ => False)) ∧
    ∀ size retention,
      let call := Replay.runBy size retention (on store) book
      let opened := (LedgerSink.openTransaction store).1
      Transacted (Replay.runBy size retention store book) call (LedgerSource.range store = .ok none)
        (fun cause => ⟨.openTransaction, .ok ()⟩ ∈ call.1.entries ∧
          ∃ range, LedgerSource.range store = .ok (some range) ∧
            (book.appendAll (Replay.wanted size retention range opened).1).2 = .error cause)
        (fun failure => LedgerSource.range store = .error failure ∨
          ∃ range, LedgerSource.range store = .ok (some range) ∧
            (Replay.wanted size retention range opened).2 = some failure) :=
  ⟨fun ledger => transacted_ingest ledger store book,
    fun size retention => transacted_replay size retention store book⟩

/-- If a transaction is rolled back in which no ledger was inserted, then because the book has refused one. -/
theorem Concluded.refused_of_told {entries : List LogEntry} {Idle : Prop} {Refused : FeeFailure → Prop}
    {Unread : Failure → Prop} {result : Except Failure Unit} (concluded : Concluded entries Idle Refused Unread result)
    {answer : Except String Unit}
    (told : entries.map LogEntry.told = [(.openTransaction, .ok ()), (.rollback, answer)]) :
    ∃ (cause : FeeFailure) (outcome : Except Failure Unit), ⟨.rollback, outcome⟩ ∈ entries ∧
      result = .error (.fees (cause.afterRollback outcome)) := by
  have once : entries.countP (fun entry => entry.call.isRollback) = 1 := by
    have counted := congrArg (List.countP fun told => told.1.isRollback) told
    rwa [List.countP_map] at counted
  rcases concluded.rolledBack.mp once with ⟨ledger, failure, inserted⟩ | ⟨cause, refused⟩
  · have known : LogEntry.told ⟨.insert ledger, .error failure⟩ ∈ entries.map LogEntry.told :=
      List.mem_map_of_mem inserted
    rw [told] at known
    simp [LogEntry.told] at known
  · rcases concluded.refusing cause refused with ⟨outcome, rolledBack, failed⟩
    exact ⟨cause, outcome, rolledBack, failed⟩

/-- A store with quiet ledgers, in which some operations fail. -/
def quietStore (sequences : List UInt32) (faults : Faults) : Rehearsal LedgerSession :=
  ⟨.on ⟨sequences.map fun sequence => (ClosedLedger.quiet sequence).row, true⟩, faults, ⟨0, 0, 0, 0⟩⟩

/--
A ledger whose sequence is taken, and a rollback that fails; a replay over a gap, which the book refuses; and a commit
that fails.
-/
theorem transactions_finished_threeFailures :
    let book : FeeBook := (FeeBook.empty 1 1 "network").toOption.get rfl
    let taken := ingest (.quiet 7) (on (quietStore [7] { Faults.none with rollback := some "gone" })) book
    let refused := Replay.runBy 2 5 (on (quietStore [7, 9] .none)) book
    let uncommitted := ingest (.quiet 7) (on (quietStore [] { Faults.none with commit := some "full" })) book
    (taken.1.entries = [⟨.openTransaction, .ok ()⟩, ⟨.insert (.quiet 7), .error LedgerTable.taken⟩,
        ⟨.rollback, .error (.database "gone")⟩] ∧
      taken.2.2 = .error LedgerTable.taken ∧ NeverFinished taken.1.entries) ∧
    (refused.1.entries.map LogEntry.told = [(.openTransaction, .ok ()), (.rollback, .ok ())] ∧
      refused.2.2.mapError Failure.message = .error ("Fee window error: error appending ledgers: " ++
        "ledgers not contiguous: expected ledger sequence 8 but received 9") ∧
      (∃ (cause : FeeFailure) (outcome : Except Failure Unit), ⟨.rollback, outcome⟩ ∈ refused.1.entries ∧
        (refused.2.2.map fun _ => ()) = .error (.fees (cause.afterRollback outcome))) ∧
      NeverFinished refused.1.entries) ∧
    (uncommitted.1.entries = [⟨.openTransaction, .ok ()⟩, ⟨.insert (.quiet 7), .ok ()⟩,
        ⟨.commit, .error (.database "full")⟩] ∧
      uncommitted.2.2 ≠ .ok () ∧ NeverFinished uncommitted.1.entries) := by
  intro book taken refused uncommitted
  refine ⟨?_, ?_, ?_⟩
  · have finished := (transactions_finished (quietStore [7] { Faults.none with rollback := some "gone" }) book).1
      (.quiet 7)
    have entries : taken.1.entries = [⟨.openTransaction, .ok ()⟩,
        ⟨.insert (.quiet 7), .error LedgerTable.taken⟩, ⟨.rollback, .error (.database "gone")⟩] := rfl
    have inserting : ⟨.insert (.quiet 7), .error LedgerTable.taken⟩ ∈ taken.1.entries := by simp [entries]
    have failed := finished.concluded.inserting (.quiet 7) LedgerTable.taken inserting
    rw [map_unit] at failed
    exact ⟨entries, failed, finished.unfinished _ LedgerSink.Guards.session.rehearsed⟩
  · have finished : Transacted _ refused _ _ _ := (transactions_finished (quietStore [7, 9] .none) book).2 2 5
    have outcome : (refused.1.entries.map LogEntry.told, refused.2.2.mapError Failure.message) =
        ([(.openTransaction, .ok ()), (.rollback, .ok ())], .error ("Fee window error: error appending ledgers: " ++
          "ledgers not contiguous: expected ledger sequence 8 but received 9")) := by decide +kernel
    rcases Prod.mk.inj outcome with ⟨log, text⟩
    exact ⟨log, text, finished.concluded.refused_of_told log,
      finished.unfinished _ LedgerSink.Guards.session.rehearsed⟩
  · have finished := (transactions_finished (quietStore [] { Faults.none with commit := some "full" }) book).1
      (.quiet 7)
    have entries : uncommitted.1.entries = [⟨.openTransaction, .ok ()⟩, ⟨.insert (.quiet 7), .ok ()⟩,
        ⟨.commit, .error (.database "full")⟩] := rfl
    refine ⟨entries, ?_, finished.unfinished _ LedgerSink.Guards.session.rehearsed⟩
    intro succeeded
    have committed := finished.concluded.succeeds.mp (by rw [map_unit]; exact succeeded)
    rw [entries] at committed
    simp at committed

end Logbook

end LedgerService
