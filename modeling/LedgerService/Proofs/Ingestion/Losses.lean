import LedgerService.Proofs.Ingestion.Restart
import LedgerService.Proofs.Ledger.Gaps

/-!
# Ledgers lost in a commit

When a commit fails, the book has accepted the ledger already and goes on to the next sequence, so the ledger is lost to
the store for good. The ledgers that the book has accepted are consecutive all the same, and the store keeps those whose
commit succeeded (`Trial.Sound`). So the stored range has gaps where ledgers were lost between stored ones, and nowhere
else, and a later replay is refused exactly if it meets such a gap (`Trial.gaps_are_lost_ledgers`).
-/

namespace LedgerService

open ClosedLedger (since ends? Ascending GapFree Missing)

/-- An intake together with all ledgers that its book has accepted, whether the store keeps them or not. -/
structure Trial extends Intake LedgerSession where
  entered : List ClosedLedger

namespace Trial

/-- Offers a ledger for ingestion while some operations of the store fail. -/
def offer (trial : Trial) (call : Faults × ClosedLedger) : Trial where
  toIntake := (trial.toIntake.offer call).1
  entered :=
    if reachesCommit call.2 (trial.facing call.1) trial.book then trial.entered ++ [call.2] else trial.entered

/-- Offers ledgers one after the other, whether they are accepted or not. -/
def run (trial : Trial) (calls : List (Faults × ClosedLedger)) : Trial := calls.foldl offer trial

/-- Nothing stored, and nothing entered into a new book. -/
def start (fresh : FeeBook) : Trial := ⟨⟨Intake.emptyTable, fresh, []⟩, []⟩

/-- The store keeps some of the ledgers that the book has accepted, in order. -/
structure Sound (trial : Trial) (classic contract : Nat) (passphrase : String) : Prop where
  covers : trial.book.Covers classic contract passphrase trial.entered
  sublist : trial.accepted.Sublist trial.entered
  stored : trial.store.store.table.rows.Perm (trial.accepted.map ClosedLedger.row)
  ordered : trial.store.store.Ordered

namespace Sound

variable {trial : Trial} {classic contract : Nat} {passphrase : String}

theorem offer (sound : trial.Sound classic contract passphrase) (call : Faults × ClosedLedger) :
    (trial.offer call).Sound classic contract passphrase := by
  have ordered := LedgerSession.keeps_ordered.offer trial.toIntake call sound.ordered
  rcases ingest_cases LedgerSession.view.rehearsed sound.covers call.2 (trial.facing call.1) with
    ⟨after, failure, ended, early, kept⟩ | ⟨larger, ended, reached, covers, pending, kept⟩
  · rw [Intake.offer, ended] at ordered
    rw [Trial.offer, Intake.offer, ended, early]
    refine ⟨sound.covers, sound.sublist, ?_, ordered⟩
    exact (List.Perm.of_eq kept).trans sound.stored
  · rw [Intake.offer, ended] at ordered
    rw [Trial.offer, Intake.offer, ended, reached]
    cases outcome : (LedgerSink.commit (LedgerSink.loaded call.2 (trial.facing call.1))).2 with
    | ok =>
        rw [outcome] at ordered
        refine ⟨covers, sound.sublist.append_right [call.2], ?_, ordered⟩
        have joined := LedgerSession.view.rehearsed.committed_commit _ _ pending outcome
        rw [kept] at joined
        dsimp only
        rw [List.map_append]
        exact (joined.trans (sound.stored.cons call.2.row)).trans (List.perm_append_singleton _ _).symm
    | error failure =>
        rw [outcome] at ordered
        refine ⟨covers, sound.sublist.trans (List.sublist_append_left _ _), ?_, ordered⟩
        have unchanged := Rehearsal.store_of_commit_error pending outcome
        have rows := (congrArg (fun session => session.table.rows) unchanged).trans kept
        exact (List.Perm.of_eq rows).trans sound.stored

theorem run (sound : trial.Sound classic contract passphrase) (calls : List (Faults × ClosedLedger)) :
    (trial.run calls).Sound classic contract passphrase := by
  induction calls generalizing trial with
  | nil => exact sound
  | cons call others ih => exact ih (sound.offer call)

theorem stores (sound : trial.Sound classic contract passphrase)
    (consecutive : ClosedLedger.Consecutive trial.entered) :
    trial.store.store.table.Stores trial.accepted :=
  sound.ordered.stores_of_ascending sound.stored (consecutive.ascending.sublist sound.sublist)

theorem start (setup : FeeSetup) :
    ∃ fresh, FeeBook.empty setup.classic setup.contract setup.passphrase = .ok fresh ∧
      (Trial.start fresh).Sound setup.classic.toNat setup.contract.toNat setup.passphrase := by
  rcases FeeBook.covers_empty setup.classicPositive setup.contractPositive setup.passphrase with
    ⟨fresh, created, covers⟩
  exact ⟨fresh, created, covers, .refl [], .refl [], LedgerSession.ordered_on rfl .nil⟩

/-- A replay into new windows of the same network succeeds unless it meets a gap. -/
theorem replay (sound : trial.Sound classic contract passphrase)
    (consecutive : ClosedLedger.Consecutive trial.entered) (setup : FeeSetup) (network : setup.passphrase = passphrase)
    (retention : UInt32) :
    ∃ renewed, FeeBook.empty setup.classic setup.contract setup.passphrase = .ok renewed ∧
      let result := (Replay.runBy setup.batch retention (trial.facing .none) renewed).2.2
      (¬Missing trial.entered trial.accepted (Replay.recent retention trial.accepted) →
        result = .ok (UInt32.ofNat (Replay.recent retention trial.accepted).length)) ∧
      (Missing trial.entered trial.accepted (Replay.recent retention trial.accepted) →
        ∃ expected received, result = .error (.fees (.gap expected received))) := by
  rcases FeeBook.covers_empty setup.classicPositive setup.contractPositive setup.passphrase with
    ⟨renewed, created, covers⟩
  rw [network] at covers
  have stores : (trial.facing .none).store.table.Stores trial.accepted := sound.stores consecutive
  rcases Replay.runBy_of_stores rfl stores setup.batchPositive retention renewed with ⟨after, -, -, replayed⟩
  rcases Replay.recent_eq_since retention trial.accepted with ⟨start, recent⟩
  have readable : ∀ ledger ∈ since start trial.accepted, ledger.fees passphrase = .ok (ledger.charges passphrase) :=
    fun ledger member => sound.covers.readable ledger (sound.sublist.subset (ClosedLedger.since_mem.mp member).1)
  refine ⟨renewed, created, ?_⟩
  rw [replayed, recent]
  dsimp only
  rw [Replay.outcome]
  constructor
  · intro complete
    have chain := ClosedLedger.chain_of_complete consecutive sound.sublist complete
    rcases covers.appendAll (since start trial.accepted) chain readable with ⟨larger, entered, -⟩
    rw [entered]
  · intro missing
    have gap : ¬([] ++ since start trial.accepted).IsChain ClosedLedger.Precedes := by
      intro chain
      have ascending : Ascending (since start trial.accepted) :=
        (consecutive.ascending.sublist sound.sublist).filter _
      exact (ascending.consecutive chain).gapFree.complete consecutive sound.sublist missing
    rcases covers.appendAll_of_gap (since start trial.accepted) gap readable with ⟨expected, received, refused⟩
    rw [refused]
    exact ⟨expected, received, rfl⟩

end Sound

/--
Whatever operations of the store fail, the ledgers that the windows have accepted are consecutive, and the store holds
those of them whose commit succeeded. Its range has a gap exactly if a ledger that was lost in a commit lies between two
stored ones, and a replay into new windows is refused exactly if such a ledger lies between two of those replayed.
-/
theorem gaps_are_lost_ledgers (setup : FeeSetup) :
    ∃ fresh, FeeBook.empty setup.classic setup.contract setup.passphrase = .ok fresh ∧
      ∀ calls : List (Faults × ClosedLedger), let trial := (start fresh).run calls
        (∀ ledger ∈ trial.entered.dropLast, ledger.sequence ≠ 4294967295) →
          trial.entered.IsChain (fun earlier later => later.sequence = earlier.sequence + 1) ∧
          trial.accepted.Sublist trial.entered ∧
          trial.store.store.table.rows = trial.accepted.map ClosedLedger.row ∧
          LedgerSource.range trial.store = .ok (ends? trial.accepted) ∧
          (GapFree trial.accepted ↔ ¬Missing trial.entered trial.accepted trial.accepted) ∧
          ∀ (other : FeeSetup) (retention : UInt32), other.passphrase = setup.passphrase →
            ∃ renewed, FeeBook.empty other.classic other.contract other.passphrase = .ok renewed ∧
              let result := (Replay.runBy other.batch retention (trial.facing .none) renewed).2.2
              (¬Missing trial.entered trial.accepted (Replay.recent retention trial.accepted) →
                result = .ok (UInt32.ofNat (Replay.recent retention trial.accepted).length)) ∧
              (Missing trial.entered trial.accepted (Replay.recent retention trial.accepted) →
                ∃ expected received, result = .error (.fees (.gap expected received))) := by
  rcases Sound.start setup with ⟨fresh, created, new⟩
  refine ⟨fresh, created, ?_⟩
  intro calls trial unwrapped
  have sound : trial.Sound setup.classic.toNat setup.contract.toNat setup.passphrase := new.run calls
  have consecutive : ClosedLedger.Consecutive trial.entered := ⟨sound.covers.consecutive, unwrapped⟩
  have stores := sound.stores consecutive
  refine ⟨sound.covers.consecutive, sound.sublist, stores.rows, stores.range, ?_, ?_⟩
  · have gapFree := ClosedLedger.gapFree_iff consecutive sound.sublist 0
    rw [ClosedLedger.since_eq_self fun ledger _ => UInt32.zero_le] at gapFree
    exact gapFree
  · intro other retention network
    exact sound.replay consecutive other network retention

open Intake (payments smallSetup)

/-- Three ledgers, of which the second is lost in a commit. -/
def threeCalls : List (Faults × ClosedLedger) :=
  [(.none, payments 1 []), ({ Faults.none with commit := some "disk full" }, payments 2 []), (.none, payments 3 [])]

/-- The sequences that a refused replay expected and met. -/
def refusedAt : Except Failure UInt32 → Option (UInt32 × UInt32)
  | .error (.fees (.gap expected received)) => some (expected, received)
  | _ => none

theorem commit_failure_leaves_gap :
    ((FeeBook.empty 3 3 "network").toOption.map fun fresh =>
      let trial := (start fresh).run threeCalls
      ((LedgerSource.range trial.store).toOption, trial.store.store.table.rows.map LedgerRow.sequence,
        refusedAt (Replay.run 3 (trial.facing .none) fresh).2.2)) =
      some (some (some ⟨1, 3⟩), [1, 3], some (2, 3)) := by
  decide +kernel

theorem gaps_after_threeCalls :
    ∃ fresh, FeeBook.empty 2 1 "network" = .ok fresh ∧
      let trial := (start fresh).run threeCalls
      trial.accepted = [payments 1 [], payments 3 []] ∧ ¬GapFree trial.accepted ∧
        ∃ renewed expected received, FeeBook.empty 2 1 "network" = .ok renewed ∧
          (Replay.runBy smallSetup.batch 3 (trial.facing .none) renewed).2.2 =
            .error (.fees (.gap expected received)) := by
  have outcome : ((FeeBook.empty 2 1 "network").toOption.map fun fresh =>
      let trial := (start fresh).run threeCalls
      (trial.entered, trial.accepted)) =
        some ([payments 1 [], payments 2 [], payments 3 []], [payments 1 [], payments 3 []]) := by decide +kernel
  rcases gaps_are_lost_ledgers smallSetup with ⟨fresh, created, gaps⟩
  have empty : FeeBook.empty 2 1 "network" = .ok fresh := created
  rw [empty] at outcome
  have reached := Option.some.inj outcome
  have entered := congrArg Prod.fst reached
  have accepted := congrArg Prod.snd reached
  dsimp only at entered accepted
  have unwrapped : ∀ ledger ∈ ((start fresh).run threeCalls).entered.dropLast, ledger.sequence ≠ 4294967295 := by
    rw [entered]
    decide
  rcases gaps threeCalls unwrapped with ⟨-, -, -, -, gapFree, replays⟩
  rcases replays smallSetup 3 rfl with ⟨renewed, renewal, -, refuses⟩
  rw [entered, accepted] at gapFree refuses
  have missing : Missing [payments 1 [], payments 2 [], payments 3 []] [payments 1 [], payments 3 []]
      [payments 1 [], payments 3 []] :=
    ⟨payments 2 [], by decide, by decide, ⟨1, 3⟩, rfl, by decide, by decide⟩
  have recent : Replay.recent 3 [payments 1 [], payments 3 []] = [payments 1 [], payments 3 []] := by decide
  rw [recent] at refuses
  rcases refuses missing with ⟨expected, received, refused⟩
  refine ⟨fresh, empty, accepted, ?_, renewed, expected, received, renewal, refused⟩
  rw [accepted, gapFree]
  exact not_not_intro missing

end Trial

end LedgerService
