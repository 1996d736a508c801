import LedgerService.Store.Access

/-!
# Shelves

Ledgers in memory, in the order in which they were put there. A shelf is only read: transactions
succeed on it and keep nothing.
-/

namespace LedgerService

/-- Ledgers in memory, and a range to report instead of their own. -/
structure Shelf where
  ledgers : List ClosedLedger
  reported : Option (Option SequenceRange)
deriving Repr, Inhabited

namespace Shelf

/-- A shelf that reports its own range. -/
def ofList (ledgers : List ClosedLedger) : Shelf := ⟨ledgers, none⟩

/-- Puts ledgers behind those on the shelf. -/
def push (shelf : Shelf) (ledgers : List ClosedLedger) : Shelf :=
  { shelf with ledgers := shelf.ledgers ++ ledgers }

/-- The sequences of the first and the last ledger. -/
def ownRange (shelf : Shelf) : Option SequenceRange :=
  match shelf.ledgers.head?, shelf.ledgers.getLast? with
  | some first, some last => some ⟨first.sequence, last.sequence⟩
  | _, _ => none

instance : LedgerSource Shelf where
  range shelf := .ok (shelf.reported.getD shelf.ownRange)
  latest shelf := .ok (shelf.ledgers.getLast?.map ClosedLedger.summary)
  ledgers shelf start limit :=
    .ok ((shelf.ledgers.filter fun ledger => start ≤ ledger.sequence).take limit.toNat)

instance : LedgerSink Shelf where
  openTransaction shelf := (shelf, .ok ())
  insert _ shelf := (shelf, .ok ())
  commit shelf := (shelf, .ok ())
  rollback shelf := (shelf, .ok ())

end Shelf

end LedgerService
