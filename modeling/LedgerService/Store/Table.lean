import LedgerService.Ledger.Layout
import LedgerService.Store.Access

/-!
# The ledger table

A table with one row per ledger, ordered by sequence. A row repeats the header of its ledger beside the ledger's
JSON text, which alone is what reading a ledger decodes. Rows are added in transactions: the rows of a transaction
join the table when it is committed and are lost when it is rolled back.
-/

namespace LedgerService

/-- One row; the sequence is its key. -/
structure LedgerRow where
  sequence : Int64
  closeTime : Int64
  protocolVersion : Int64
  hash : String
  document : String
deriving DecidableEq, Repr, Inhabited

/-- The row of a ledger. -/
def ClosedLedger.row (ledger : ClosedLedger) : LedgerRow :=
  { sequence := Int64.ofNat ledger.sequence.toNat
    closeTime := ledger.closeTime
    protocolVersion := Int64.ofNat ledger.protocolVersion.toNat
    hash := ledger.hash
    document := ClosedLedger.schema.write ledger }

/-- The lower 32 bits of a number. -/
def low32 (value : Int64) : UInt32 := UInt32.ofNat (value.toInt.emod UInt32.size).toNat

/-- The header that a row repeats. -/
def LedgerRow.summary (row : LedgerRow) : LedgerSummary :=
  ⟨low32 row.sequence, row.hash, row.closeTime, low32 row.protocolVersion⟩

/-- A database with or without the ledger table. -/
structure LedgerTable where
  /-- The committed rows in the order of their sequences. -/
  rows : List LedgerRow
  /-- The table has been created. -/
  created : Bool
deriving Repr, Inhabited

/-- The rows added in a transaction, or none once it is finished. -/
structure LedgerTransactionState where
  added : Option (List LedgerRow)
deriving Repr, Inhabited

namespace LedgerTable

/-- A database without tables. -/
def blank : LedgerTable := ⟨[], false⟩

/-- Creates the table unless it is there. -/
def create (table : LedgerTable) : LedgerTable := { table with created := true }

/-- Puts a row in its place. -/
def place (row : LedgerRow) : List LedgerRow → List LedgerRow
  | [] => [row]
  | other :: rest => if row.sequence < other.sequence then row :: other :: rest else other :: place row rest

/-- Some row has the sequence. -/
def holds (rows : List LedgerRow) (sequence : Int64) : Bool := rows.any fun row => row.sequence == sequence

/-- The failure of every access to a table that is not there. -/
def missing : Failure := .database "Database error [1]: no such table: ledger_close_meta"

/-- The failure of adding a row whose sequence is taken. -/
def taken : Failure :=
  .database "Unique constraint violation: UNIQUE constraint failed: ledger_close_meta.sequence (1555)"

/-- The failure of using a finished transaction. -/
def finished : Failure := .invalidState "transaction already finished"

/-- The rows added to those given, if the table is there and their sequence is free in both. -/
def addTo (table : LedgerTable) (added : List LedgerRow) (row : LedgerRow) : Except Failure (List LedgerRow) :=
  if !table.created then .error missing
  else if holds table.rows row.sequence || holds added row.sequence then .error taken
  else .ok (row :: added)

/-- Adds a row outside any transaction. -/
def addRow (table : LedgerTable) (row : LedgerRow) : Except Failure LedgerTable := do
  let _ ← table.addTo [] row
  return { table with rows := place row table.rows }

/-- The rows of the table, if it is there. -/
def read (table : LedgerTable) : Except Failure (List LedgerRow) :=
  if table.created then .ok table.rows else .error missing

/-- The ledger that a row's text describes. -/
def decodeRow (row : LedgerRow) : Except Failure ClosedLedger :=
  match ClosedLedger.schema.parse row.document with
  | .ok ledger => .ok ledger
  | .error error => .error (.serialization error)

/-- The least and the greatest sequence. -/
def range (table : LedgerTable) : Except Failure (Option SequenceRange) := do
  let rows ← table.read
  match rows.head?, rows.getLast? with
  | some first, some last => return some ⟨low32 first.sequence, low32 last.sequence⟩
  | _, _ => return none

/-- The header in the row with the greatest sequence. -/
def latest (table : LedgerTable) : Except Failure (Option LedgerSummary) := do
  return (← table.read).getLast?.map LedgerRow.summary

/-- The ledgers in the first rows from a sequence on. -/
def ledgers (table : LedgerTable) (start limit : UInt32) : Except Failure (List ClosedLedger) := do
  let rows ← table.read
  let wanted := rows.filter fun row => (start.toNat : Int) ≤ row.sequence.toInt
  (wanted.take limit.toNat).mapM decodeRow

instance : LedgerSource LedgerTable := ⟨range, latest, ledgers⟩

end LedgerTable

namespace LedgerTransactionState

/-- A transaction without rows. -/
def opened : LedgerTransactionState := ⟨some []⟩

/-- A finished transaction. -/
def closed : LedgerTransactionState := ⟨none⟩

/-- Adds a ledger; a failure leaves the transaction as it is. -/
def insert (transaction : LedgerTransactionState) (table : LedgerTable) (ledger : ClosedLedger) :
    LedgerTransactionState × Except Failure Unit :=
  match transaction.added with
  | none => (transaction, .error LedgerTable.finished)
  | some added =>
    match table.addTo added ledger.row with
    | .ok larger => (⟨some larger⟩, .ok ())
    | .error failure => (transaction, .error failure)

/-- Adds ledgers until one is refused. -/
def insertAll (transaction : LedgerTransactionState) (table : LedgerTable) :
    List ClosedLedger → LedgerTransactionState × Except Failure Unit
  | [] => (transaction, .ok ())
  | ledger :: others =>
    match transaction.insert table ledger with
    | (transaction, .ok ()) => insertAll transaction table others
    | refused => refused

/-- Moves the rows into the table and finishes the transaction. -/
def commit (transaction : LedgerTransactionState) (table : LedgerTable) :
    LedgerTable × Except Failure Unit :=
  match transaction.added with
  | none => (table, .error LedgerTable.finished)
  | some added => ({ table with rows := added.foldr LedgerTable.place table.rows }, .ok ())

/-- Gives the rows up and finishes the transaction. -/
def rollback (transaction : LedgerTransactionState) : Except Failure Unit :=
  match transaction.added with
  | none => .error LedgerTable.finished
  | some _ => .ok ()

end LedgerTransactionState

/-- A ledger table together with the transaction that is being written. -/
structure LedgerSession where
  table : LedgerTable
  transaction : LedgerTransactionState
deriving Repr, Inhabited

namespace LedgerSession

/-- A session on a table, without a transaction. -/
def on (table : LedgerTable) : LedgerSession := ⟨table, .closed⟩

instance : LedgerSource LedgerSession where
  range session := session.table.range
  latest session := session.table.latest
  ledgers session := session.table.ledgers

instance : LedgerSink LedgerSession where
  openTransaction session := ({ session with transaction := .opened }, .ok ())
  insert ledger session :=
    let (transaction, result) := session.transaction.insert session.table ledger
    ({ session with transaction }, result)
  commit session :=
    let (table, result) := session.transaction.commit session.table
    (⟨table, .closed⟩, result)
  rollback session := ({ session with transaction := .closed }, session.transaction.rollback)

end LedgerSession

end LedgerService
