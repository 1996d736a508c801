import LedgerService.Store.Access

/-!
# Rehearsals

A store whose writing operations are counted, and fail on demand. A failing operation does not reach the store.
-/

namespace LedgerService

/-- The texts with which operations fail; the others succeed if the store lets them. -/
structure Faults where
  openTransaction : Option String
  insert : Option String
  commit : Option String
  rollback : Option String
deriving DecidableEq, Repr, Inhabited

/-- No operation fails. -/
def Faults.none : Faults := ⟨Option.none, Option.none, Option.none, Option.none⟩

/-- How often each operation was called. -/
structure CallCounts where
  opened : Nat
  inserts : Nat
  commits : Nat
  rollbacks : Nat
deriving DecidableEq, Repr, Inhabited

/-- A store under observation. -/
structure Rehearsal (σ : Type) where
  store : σ
  faults : Faults
  counts : CallCounts
deriving Repr

namespace Rehearsal

variable {σ : Type}

/-- A store of which no operation has been called yet. -/
def start (store : σ) : Rehearsal σ := ⟨store, Faults.none, ⟨0, 0, 0, 0⟩⟩

/-- Fails with the text of a fault, or lets the store answer. -/
def perform (fault : Option String) (rehearsal : Rehearsal σ) (operation : σ → σ × Except Failure Unit) :
    Rehearsal σ × Except Failure Unit :=
  match fault with
  | some text => (rehearsal, .error (.database text))
  | none =>
    let (store, result) := operation rehearsal.store
    ({ rehearsal with store }, result)

instance [LedgerSource σ] : LedgerSource (Rehearsal σ) where
  range rehearsal := LedgerSource.range rehearsal.store
  latest rehearsal := LedgerSource.latest rehearsal.store
  ledgers rehearsal := LedgerSource.ledgers rehearsal.store

instance [LedgerSink σ] : LedgerSink (Rehearsal σ) where
  openTransaction rehearsal :=
    let counted := { rehearsal with counts.opened := rehearsal.counts.opened + 1 }
    perform rehearsal.faults.openTransaction counted LedgerSink.openTransaction
  insert ledger rehearsal :=
    let counted := { rehearsal with counts.inserts := rehearsal.counts.inserts + 1 }
    perform rehearsal.faults.insert counted (LedgerSink.insert ledger)
  commit rehearsal :=
    let counted := { rehearsal with counts.commits := rehearsal.counts.commits + 1 }
    perform rehearsal.faults.commit counted LedgerSink.commit
  rollback rehearsal :=
    let counted := { rehearsal with counts.rollbacks := rehearsal.counts.rollbacks + 1 }
    perform rehearsal.faults.rollback counted LedgerSink.rollback

end Rehearsal

end LedgerService
