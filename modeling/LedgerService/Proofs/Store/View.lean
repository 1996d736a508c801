import LedgerService.Store.Rehearsal
import LedgerService.Store.Table

/-!
# What a store holds

A view of a store: the entries that it has committed, and those of the transaction that is being written. What the
transactions of a store promise is said in terms of its view: nothing but a commit changes the committed entries,
and a commit that succeeds adds those of its transaction. The session of a ledger table has such a view, and so has
every store under observation whose operations fail on demand.
-/

namespace LedgerService

/-- The entries of a store, with the promises of its transactions. -/
structure StoreView (σ α : Type) [LedgerSink σ] where
  /-- What is kept of a ledger. -/
  entry : ClosedLedger → α
  committed : σ → List α
  /-- The entries of the transaction that is being written. -/
  pending : σ → Option (List α)
  committed_open : ∀ store, committed (LedgerSink.openTransaction store).1 = committed store
  committed_insert : ∀ ledger store, committed (LedgerSink.insert ledger store).1 = committed store
  committed_rollback : ∀ store, committed (LedgerSink.rollback store).1 = committed store
  pending_open : ∀ store, (LedgerSink.openTransaction store).2 = .ok () →
    pending (LedgerSink.openTransaction store).1 = some []
  pending_insert : ∀ ledger store added, pending store = some added → (LedgerSink.insert ledger store).2 = .ok () →
    pending (LedgerSink.insert ledger store).1 = some (entry ledger :: added)
  committed_commit : ∀ store added, pending store = some added → (LedgerSink.commit store).2 = .ok () →
    (committed (LedgerSink.commit store).1).Perm (added ++ committed store)

namespace LedgerTable

theorem place_perm (row : LedgerRow) (rows : List LedgerRow) : (place row rows).Perm (row :: rows) := by
  induction rows with
  | nil => exact .refl _
  | cons other rest ih =>
      unfold place
      split
      · exact .refl _
      · exact (ih.cons other).trans (.swap row other rest)

theorem foldr_place_perm (added rows : List LedgerRow) : (added.foldr place rows).Perm (added ++ rows) := by
  induction added with
  | nil => exact .refl _
  | cons row others ih => exact (place_perm row _).trans (ih.cons row)

theorem addTo_eq {table : LedgerTable} {added larger : List LedgerRow} {row : LedgerRow}
    (fits : table.addTo added row = .ok larger) : larger = row :: added := by
  unfold addTo at fits
  split at fits
  · cases fits
  · split at fits
    · cases fits
    · cases fits
      rfl

end LedgerTable

namespace LedgerSession

theorem added_insert {ledger : ClosedLedger} {session : LedgerSession} {added : List LedgerRow}
    (writing : session.transaction.added = some added) (succeeds : (LedgerSink.insert ledger session).2 = .ok ()) :
    (LedgerSink.insert ledger session).1.transaction.added = some (ledger.row :: added) := by
  simp only [LedgerSink.insert, LedgerTransactionState.insert, writing] at succeeds ⊢
  cases larger : session.table.addTo added ledger.row with
  | error failure =>
      rw [larger] at succeeds
      cases succeeds
  | ok rows => rw [LedgerTable.addTo_eq larger]

theorem rows_commit {session : LedgerSession} {added : List LedgerRow}
    (writing : session.transaction.added = some added) :
    (LedgerSink.commit session).1.table.rows.Perm (added ++ session.table.rows) := by
  simp only [LedgerSink.commit, LedgerTransactionState.commit, writing]
  exact LedgerTable.foldr_place_perm added session.table.rows

/-- A commit fails on a finished transaction only. -/
theorem commit_ok {session : LedgerSession} {added : List LedgerRow}
    (writing : session.transaction.added = some added) : (LedgerSink.commit session).2 = .ok () := by
  simp only [LedgerSink.commit, LedgerTransactionState.commit, writing]

/-- The rows of the table and of the transaction. -/
def view : StoreView LedgerSession LedgerRow where
  entry := ClosedLedger.row
  committed session := session.table.rows
  pending session := session.transaction.added
  committed_open _ := rfl
  committed_insert _ _ := rfl
  committed_rollback _ := rfl
  pending_open _ _ := rfl
  pending_insert _ _ _ writing succeeds := added_insert writing succeeds
  committed_commit _ _ writing _ := rows_commit writing

end LedgerSession

namespace Rehearsal

variable {σ : Type}

theorem faults_perform (fault : Option String) (rehearsal : Rehearsal σ)
    (operation : σ → σ × Except Failure Unit) : (perform fault rehearsal operation).1.faults = rehearsal.faults := by
  cases fault <;> rfl

/-- What no operation of the store changes, no rehearsed operation changes. -/
theorem perform_keeps {β : Type} (shown : σ → β) (operation : σ → σ × Except Failure Unit)
    (keeps : ∀ store, shown (operation store).1 = shown store) (fault : Option String) (rehearsal : Rehearsal σ) :
    shown (perform fault rehearsal operation).1.store = shown rehearsal.store := by
  cases fault with
  | none => exact keeps rehearsal.store
  | some text => rfl

/-- A rehearsed operation that succeeds is the operation of the store. -/
theorem perform_ok {fault : Option String} {rehearsal : Rehearsal σ} {operation : σ → σ × Except Failure Unit}
    (succeeds : (perform fault rehearsal operation).2 = .ok ()) :
    (operation rehearsal.store).2 = .ok () ∧
      (perform fault rehearsal operation).1.store = (operation rehearsal.store).1 := by
  cases fault with
  | none => exact ⟨succeeds, rfl⟩
  | some text => cases succeeds

theorem perform_eq_ok {fault : Option String} {rehearsal after : Rehearsal σ} {operation : σ → σ × Except Failure Unit}
    (succeeds : perform fault rehearsal operation = (after, .ok ())) :
    operation rehearsal.store = (after.store, .ok ()) := by
  rcases perform_ok (congrArg Prod.snd succeeds) with ⟨fine, reached⟩
  exact Prod.ext (reached.symm.trans (congrArg (fun outcome => outcome.1.store) succeeds)) fine

variable [LedgerSink σ]

theorem faults_open (rehearsal : Rehearsal σ) :
    (LedgerSink.openTransaction rehearsal).1.faults = rehearsal.faults :=
  faults_perform _ _ _

theorem faults_insert (ledger : ClosedLedger) (rehearsal : Rehearsal σ) :
    (LedgerSink.insert ledger rehearsal).1.faults = rehearsal.faults :=
  faults_perform _ _ _

theorem open_ok {rehearsal opened : Rehearsal σ} (succeeds : LedgerSink.openTransaction rehearsal = (opened, .ok ())) :
    LedgerSink.openTransaction rehearsal.store = (opened.store, .ok ()) := by
  have reached := perform_eq_ok succeeds
  exact reached

theorem commit_ok {rehearsal closed : Rehearsal σ} (succeeds : LedgerSink.commit rehearsal = (closed, .ok ())) :
    LedgerSink.commit rehearsal.store = (closed.store, .ok ()) := by
  have reached := perform_eq_ok succeeds
  exact reached

theorem commit_of_none {rehearsal : Rehearsal σ} (faultless : rehearsal.faults.commit = none) :
    (LedgerSink.commit rehearsal).2 = (LedgerSink.commit rehearsal.store).2 := by
  simp only [LedgerSink.commit, faultless, perform]

/-- A commit that fails leaves the store as it is. -/
theorem store_of_commit_error {rehearsal : Rehearsal LedgerSession} {added : List LedgerRow}
    {failure : Failure} (writing : rehearsal.store.transaction.added = some added)
    (failed : (LedgerSink.commit rehearsal).2 = .error failure) :
    (LedgerSink.commit rehearsal).1.store = rehearsal.store := by
  cases fault : rehearsal.faults.commit with
  | none =>
      rw [commit_of_none fault, LedgerSession.commit_ok writing] at failed
      cases failed
  | some text =>
      simp only [LedgerSink.commit, fault, perform]

end Rehearsal

/-- A store under observation holds what the store itself holds. -/
def StoreView.rehearsed {σ α : Type} [LedgerSink σ] (view : StoreView σ α) : StoreView (Rehearsal σ) α where
  entry := view.entry
  committed rehearsal := view.committed rehearsal.store
  pending rehearsal := view.pending rehearsal.store
  committed_open rehearsal := Rehearsal.perform_keeps _ _ view.committed_open _ _
  committed_insert ledger rehearsal := Rehearsal.perform_keeps _ _ (view.committed_insert ledger) _ _
  committed_rollback rehearsal := Rehearsal.perform_keeps _ _ view.committed_rollback _ _
  pending_open rehearsal succeeds := by
    rcases Rehearsal.perform_ok succeeds with ⟨opened, reached⟩
    exact (congrArg view.pending reached).trans (view.pending_open _ opened)
  pending_insert ledger rehearsal added writing succeeds := by
    rcases Rehearsal.perform_ok succeeds with ⟨inserted, reached⟩
    exact (congrArg view.pending reached).trans (view.pending_insert ledger _ added writing inserted)
  committed_commit rehearsal added writing succeeds := by
    rcases Rehearsal.perform_ok succeeds with ⟨committed, reached⟩
    have joined := view.committed_commit _ added writing committed
    rw [← congrArg view.committed reached] at joined
    exact joined

end LedgerService
