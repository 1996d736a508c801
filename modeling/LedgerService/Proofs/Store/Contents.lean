import LedgerService.Proofs.Ledger.Lossless
import LedgerService.Proofs.Ledger.Order
import LedgerService.Proofs.Store.View
import Mathlib.Data.List.Perm.Basic

/-!
# The ledgers in a table

A table whose rows are those of some ledgers, in the order of their sequences, answers as if it kept the ledgers
themselves (`LedgerTable.Stores`): a row repeats the header of its ledger, and its text describes nothing but the
ledger. Transactions keep the rows in order, whichever of their operations are called and fail
(`LedgerSession.Ordered`), so reading gives back the ledgers that were inserted and committed
(`ClosedLedger.encoding_lossless`).
-/

namespace LedgerService

theorem low32_ofNat (value : UInt32) : low32 (Int64.ofNat value.toNat) = value := by
  have small := value.toNat_lt
  have same : (Int64.ofNat value.toNat).toInt = value.toNat := Int64.toInt_ofNat_of_lt (by omega)
  have kept : (value.toNat : Int).emod UInt32.size = value.toNat :=
    Int.emod_eq_of_lt (by omega) (Int.ofNat_lt.mpr small)
  rw [low32, same, kept, Int.toNat_natCast, UInt32.ofNat_toNat]

namespace ClosedLedger

variable (ledger : ClosedLedger)

theorem toInt_sequence_row : ledger.row.sequence.toInt = ledger.sequence.toNat := by
  have small := ledger.sequence.toNat_lt
  exact Int64.toInt_ofNat_of_lt (by omega)

theorem sequence_row_lt_iff {earlier later : ClosedLedger} :
    earlier.row.sequence < later.row.sequence ↔ earlier.sequence < later.sequence := by
  rw [Int64.lt_iff_toInt_lt, toInt_sequence_row, toInt_sequence_row, Int.ofNat_lt, UInt32.lt_iff_toNat_lt]

theorem sequence_row_inj {one other : ClosedLedger} (same : one.row.sequence = other.row.sequence) :
    one.sequence = other.sequence := by
  have equal := congrArg Int64.toInt same
  rw [toInt_sequence_row, toInt_sequence_row] at equal
  exact UInt32.toNat_inj.mp (Int.ofNat_inj.mp equal)

theorem low32_sequence_row : low32 ledger.row.sequence = ledger.sequence := low32_ofNat ledger.sequence

theorem summary_row : ledger.row.summary = ledger.summary := by
  unfold LedgerRow.summary summary row
  rw [low32_ofNat, low32_ofNat]

theorem decodeRow_row : LedgerTable.decodeRow ledger.row = .ok ledger := by
  rw [LedgerTable.decodeRow, row, (ClosedLedger.schema.readsBack lossless_schema shallow_schema ledger).ofText]

end ClosedLedger

namespace LedgerTable

/-- The rows are in the order of their sequences, no two of which are equal. -/
def Ascending (rows : List LedgerRow) : Prop :=
  rows.Pairwise fun earlier later => earlier.sequence < later.sequence

/-- The rows of the table are those of the ledgers, in the order of their sequences. -/
structure Stores (table : LedgerTable) (ledgers : List ClosedLedger) : Prop where
  created : table.created = true
  rows : table.rows = ledgers.map ClosedLedger.row
  ascending : ClosedLedger.Ascending ledgers

theorem mapM_decodeRow (ledgers : List ClosedLedger) :
    (ledgers.map ClosedLedger.row).mapM decodeRow = .ok ledgers := by
  induction ledgers with
  | nil => rfl
  | cons first others ih =>
      rw [List.map_cons, List.mapM_cons, first.decodeRow_row, ih]
      rfl

namespace Stores

variable {table : LedgerTable} {ledgers : List ClosedLedger}

theorem read (stores : table.Stores ledgers) : table.read = .ok (ledgers.map ClosedLedger.row) := by
  rw [LedgerTable.read, stores.created, stores.rows]
  rfl

theorem range (stores : table.Stores ledgers) : table.range = .ok (ClosedLedger.ends? ledgers) := by
  rw [LedgerTable.range, stores.read, ClosedLedger.ends?]
  simp only [bind, Except.bind, List.head?_map, List.getLast?_map]
  cases ledgers.head? with
  | none => rfl
  | some first =>
      cases ledgers.getLast? with
      | none => rfl
      | some last =>
          simp only [Option.map_some, ClosedLedger.low32_sequence_row]
          rfl

theorem latest (stores : table.Stores ledgers) : table.latest = .ok (ledgers.getLast?.map ClosedLedger.summary) := by
  rw [LedgerTable.latest, stores.read]
  simp only [bind, Except.bind, List.getLast?_map, Option.map_map]
  have same : LedgerRow.summary ∘ ClosedLedger.row = ClosedLedger.summary := funext ClosedLedger.summary_row
  rw [same]
  rfl

theorem ledgers_eq (stores : table.Stores ledgers) (start limit : UInt32) :
    table.ledgers start limit = .ok ((ClosedLedger.since start ledgers).take limit.toNat) := by
  have wanted : ((ledgers.map ClosedLedger.row).filter fun row => (start.toNat : Int) ≤ row.sequence.toInt) =
      (ClosedLedger.since start ledgers).map ClosedLedger.row := by
    rw [ClosedLedger.since, List.filter_map]
    congr 1
    apply List.filter_congr
    intro ledger _
    simp only [Function.comp, ledger.toInt_sequence_row, Int.ofNat_le, UInt32.le_iff_toNat_le]
  rw [LedgerTable.ledgers, stores.read]
  simp only [bind, Except.bind]
  rw [wanted, ← List.map_take, mapM_decodeRow]

end Stores

theorem Ascending.place {rows : List LedgerRow} {row : LedgerRow} (ascending : Ascending rows)
    (fresh : ∀ other ∈ rows, other.sequence ≠ row.sequence) : Ascending (place row rows) := by
  induction rows with
  | nil => exact List.pairwise_singleton _ _
  | cons first others ih =>
      rcases List.pairwise_cons.mp ascending with ⟨least, ordered⟩
      rw [LedgerTable.place]
      split
      case isTrue before =>
        apply List.pairwise_cons.mpr ⟨_, ascending⟩
        intro other member
        rcases List.mem_cons.mp member with rfl | later
        · exact before
        · exact Int64.lt_trans before (least other later)
      case isFalse after =>
        have different := fresh first List.mem_cons_self
        apply List.pairwise_cons.mpr ⟨_, ih ordered fun other member => fresh other (List.mem_cons_of_mem _ member)⟩
        intro other member
        rcases List.mem_cons.mp ((place_perm row others).mem_iff.mp member) with rfl | later
        · exact Int64.lt_of_le_of_ne (Int64.not_lt.mp after) different
        · exact least other later

theorem addTo_of_fresh {table : LedgerTable} {added : List LedgerRow} {row : LedgerRow} (created : table.created = true)
    (fresh : ∀ other ∈ added ++ table.rows, other.sequence ≠ row.sequence) :
    table.addTo added row = .ok (row :: added) := by
  have free : ∀ rows : List LedgerRow, (∀ other ∈ rows, other.sequence ≠ row.sequence) →
      holds rows row.sequence = false := by
    intro rows apart
    apply List.any_eq_false.mpr
    intro other member same
    exact apart other member (beq_iff_eq.mp same)
  rw [addTo, created, free added fun other member => fresh other (List.mem_append_left _ member),
    free table.rows fun other member => fresh other (List.mem_append_right _ member)]
  rfl

theorem fresh_of_addTo {table : LedgerTable} {added larger : List LedgerRow} {row : LedgerRow}
    (fits : table.addTo added row = .ok larger) : ∀ other ∈ added ++ table.rows, other.sequence ≠ row.sequence := by
  unfold addTo at fits
  split at fits
  · cases fits
  · split at fits
    · cases fits
    · rename_i free
      rw [Bool.or_eq_true, not_or, Bool.not_eq_true, Bool.not_eq_true] at free
      intro other member same
      rcases List.mem_append.mp member with inside | outside
      · exact List.any_eq_false.mp free.2 other inside (beq_iff_eq.mpr same)
      · exact List.any_eq_false.mp free.1 other outside (beq_iff_eq.mpr same)

end LedgerTable

namespace LedgerSession

open LedgerTable (Ascending)

/-- A ledger is refused without a trace, or its row joins those of the transaction. -/
theorem insert_cases (ledger : ClosedLedger) (session : LedgerSession) :
    (∃ failure, LedgerSink.insert ledger session = (session, .error failure)) ∨
    ∃ added, session.transaction.added = some added ∧
      session.table.addTo added ledger.row = .ok (ledger.row :: added) ∧
      LedgerSink.insert ledger session = (⟨session.table, ⟨some (ledger.row :: added)⟩⟩, .ok ()) := by
  simp only [LedgerSink.insert, LedgerTransactionState.insert]
  cases writing : session.transaction.added with
  | none =>
      left
      exact ⟨_, rfl⟩
  | some added =>
      dsimp only
      cases fits : session.table.addTo added ledger.row with
      | error failure =>
          left
          exact ⟨failure, rfl⟩
      | ok larger =>
          right
          cases LedgerTable.addTo_eq fits
          exact ⟨added, rfl, fits, rfl⟩

/-- A finished transaction cannot be committed; the rows of any other join the table. -/
theorem commit_cases (session : LedgerSession) :
    (session.transaction.added = none ∧
      LedgerSink.commit session = (.on session.table, .error LedgerTable.finished)) ∨
    ∃ added, session.transaction.added = some added ∧
      LedgerSink.commit session =
        (.on { session.table with rows := added.foldr LedgerTable.place session.table.rows }, .ok ()) := by
  simp only [LedgerSink.commit, LedgerTransactionState.commit]
  cases session.transaction.added with
  | none =>
      left
      exact ⟨rfl, rfl⟩
  | some added =>
      right
      exact ⟨added, rfl, rfl⟩

/-- The table is there, its rows are in order, and remain so when the transaction is committed. -/
structure Ordered (session : LedgerSession) : Prop where
  created : session.table.created = true
  ascending : Ascending session.table.rows
  pending : ∀ added ∈ session.transaction.added, Ascending (added.foldr LedgerTable.place session.table.rows)

namespace Ordered

variable {session : LedgerSession}

theorem openTransaction (ordered : session.Ordered) : (LedgerSink.openTransaction session).1.Ordered := by
  refine ⟨ordered.created, ordered.ascending, ?_⟩
  intro added member
  cases member
  exact ordered.ascending

theorem insert (ordered : session.Ordered) (ledger : ClosedLedger) : (LedgerSink.insert ledger session).1.Ordered := by
  rcases insert_cases ledger session with ⟨failure, refused⟩ | ⟨earlier, writing, fits, inserted⟩
  · rw [refused]
    exact ordered
  · rw [inserted]
    refine ⟨ordered.created, ordered.ascending, ?_⟩
    intro added member
    cases member
    apply (ordered.pending earlier writing).place
    intro other inside
    apply LedgerTable.fresh_of_addTo fits
    exact (LedgerTable.foldr_place_perm _ _).mem_iff.mp inside

theorem commit (ordered : session.Ordered) : (LedgerSink.commit session).1.Ordered := by
  rcases commit_cases session with ⟨-, refused⟩ | ⟨added, writing, committed⟩
  · rw [refused]
    exact ⟨ordered.created, ordered.ascending, nofun⟩
  · rw [committed]
    exact ⟨ordered.created, ordered.pending added writing, nofun⟩

theorem rollback (ordered : session.Ordered) : (LedgerSink.rollback session).1.Ordered :=
  ⟨ordered.created, ordered.ascending, nofun⟩

/-- Rows in order that are those of some ledgers, are those of the ledgers in order. -/
theorem stores (ordered : session.Ordered) {ledgers : List ClosedLedger}
    (rows : session.table.rows.Perm (ledgers.map ClosedLedger.row)) :
    ∃ stored, stored.Perm ledgers ∧ session.table.Stores stored := by
  have arranged := congrFun (congrFun (List.eq_map_comp_perm ClosedLedger.row) session.table.rows) ledgers
  rcases arranged.mpr rows with ⟨stored, same, rearranged⟩
  refine ⟨stored, rearranged, ordered.created, same, ?_⟩
  have ascending := ordered.ascending
  rw [same, Ascending, List.pairwise_map] at ascending
  exact ascending.imp ClosedLedger.sequence_row_lt_iff.mp

theorem stores_of_ascending (ordered : session.Ordered) {ledgers : List ClosedLedger}
    (rows : session.table.rows.Perm (ledgers.map ClosedLedger.row)) (ascending : ClosedLedger.Ascending ledgers) :
    session.table.Stores ledgers := by
  rcases ordered.stores rows with ⟨stored, rearranged, stores⟩
  have same : stored = ledgers := by
    apply List.Perm.eq_of_pairwise _ stores.ascending ascending rearranged
    intro earlier later _ _ before after
    exact absurd before (UInt32.lt_asymm after)
  rw [← same]
  exact stores

end Ordered

theorem ordered_on {table : LedgerTable} (created : table.created = true) (ascending : Ascending table.rows) :
    (on table).Ordered :=
  ⟨created, ascending, nofun⟩

end LedgerSession

/-- A call to the writing side of a store. -/
inductive StoreCall where
  | openTransaction
  | insert (ledger : ClosedLedger)
  | commit
  | rollback
deriving DecidableEq

/-- A session together with the ledgers inserted in its transaction, and those inserted and committed. -/
structure Deposit where
  session : LedgerSession
  pending : List ClosedLedger
  committed : List ClosedLedger

namespace Deposit

/-- A session on a new table. -/
def start : Deposit := ⟨.on LedgerTable.blank.create, [], []⟩

/-- Makes a call. -/
def step (deposit : Deposit) : StoreCall → Deposit
  | .openTransaction => ⟨(LedgerSink.openTransaction deposit.session).1, [], deposit.committed⟩
  | .insert ledger =>
    match LedgerSink.insert ledger deposit.session with
    | (session, .ok ()) => ⟨session, ledger :: deposit.pending, deposit.committed⟩
    | (session, .error _) => { deposit with session }
  | .commit =>
    match LedgerSink.commit deposit.session with
    | (session, .ok ()) => ⟨session, [], deposit.pending ++ deposit.committed⟩
    | (session, .error _) => { deposit with session }
  | .rollback => ⟨(LedgerSink.rollback deposit.session).1, [], deposit.committed⟩

/-- Makes calls one after the other, whether they succeed or not. -/
def run (deposit : Deposit) (calls : List StoreCall) : Deposit := calls.foldl step deposit

/-- The rows of the session are those of the ledgers. -/
structure Faithful (deposit : Deposit) : Prop where
  ordered : deposit.session.Ordered
  pending : ∀ added ∈ deposit.session.transaction.added, added = deposit.pending.map ClosedLedger.row
  committed : deposit.session.table.rows.Perm (deposit.committed.map ClosedLedger.row)

namespace Faithful

variable {deposit : Deposit}

theorem start : Deposit.start.Faithful :=
  ⟨LedgerSession.ordered_on rfl .nil, nofun, .refl []⟩

theorem insert (faithful : deposit.Faithful) (ledger : ClosedLedger) : (deposit.step (.insert ledger)).Faithful := by
  have ordered := faithful.ordered.insert ledger
  rw [Deposit.step]
  rcases LedgerSession.insert_cases ledger deposit.session with ⟨failure, refused⟩ | ⟨earlier, writing, -, inserted⟩
  · rw [refused]
    exact faithful
  · rw [inserted] at ordered ⊢
    refine ⟨ordered, ?_, faithful.committed⟩
    intro added member
    cases member
    rw [faithful.pending earlier writing]
    rfl

theorem commit (faithful : deposit.Faithful) : (deposit.step .commit).Faithful := by
  have ordered := faithful.ordered.commit
  rw [Deposit.step]
  rcases LedgerSession.commit_cases deposit.session with ⟨-, refused⟩ | ⟨added, writing, committed⟩
  · rw [refused] at ordered ⊢
    exact ⟨ordered, nofun, faithful.committed⟩
  · rw [committed] at ordered ⊢
    refine ⟨ordered, nofun, ?_⟩
    rw [List.map_append, ← faithful.pending added writing]
    exact (LedgerTable.foldr_place_perm added _).trans (faithful.committed.append_left added)

theorem step (faithful : deposit.Faithful) (call : StoreCall) : (deposit.step call).Faithful := by
  cases call with
  | openTransaction =>
      refine ⟨faithful.ordered.openTransaction, ?_, faithful.committed⟩
      intro added member
      cases member
      rfl
  | insert ledger => exact faithful.insert ledger
  | commit => exact faithful.commit
  | rollback => exact ⟨faithful.ordered.rollback, nofun, faithful.committed⟩

theorem run (faithful : deposit.Faithful) (calls : List StoreCall) : (deposit.run calls).Faithful := by
  induction calls generalizing deposit with
  | nil => exact faithful
  | cons call others ih => exact ih (faithful.step call)

end Faithful

/-- Opens a transaction, inserts ledgers and commits. -/
def transaction (ledgers : List ClosedLedger) : List StoreCall :=
  .openTransaction :: (ledgers.map .insert ++ [.commit])

/-- The sequences are free in the table and in the open transaction. -/
structure Admits (deposit : Deposit) (ledgers : List ClosedLedger) : Prop where
  writing : deposit.session.transaction.added = some (deposit.pending.map ClosedLedger.row)
  distinct : ((ledgers ++ deposit.pending ++ deposit.committed).map ClosedLedger.sequence).Nodup

theorem Admits.fresh {deposit : Deposit} {ledger : ClosedLedger} {others : List ClosedLedger}
    (admits : deposit.Admits (ledger :: others)) (faithful : deposit.Faithful) :
    ∀ row ∈ deposit.pending.map ClosedLedger.row ++ deposit.session.table.rows, row.sequence ≠ ledger.row.sequence := by
  have known := admits.distinct
  rw [List.cons_append, List.cons_append, List.map_cons, List.nodup_cons] at known
  intro row inside same
  rw [(faithful.committed.append_left _).mem_iff, ← List.map_append] at inside
  rcases List.mem_map.mp inside with ⟨stored, member, rfl⟩
  apply known.1
  rw [← ClosedLedger.sequence_row_inj same, List.append_assoc]
  exact List.mem_map_of_mem (List.mem_append_right others member)

theorem run_inserts {deposit : Deposit} (faithful : deposit.Faithful) {ledgers : List ClosedLedger}
    (admits : deposit.Admits ledgers) :
    (deposit.run (ledgers.map .insert ++ [.commit])).committed.Perm
      (ledgers ++ deposit.pending ++ deposit.committed) := by
  induction ledgers generalizing deposit with
  | nil =>
      rcases LedgerSession.commit_cases deposit.session with ⟨closed, -⟩ | ⟨added, writing, committed⟩
      · rw [admits.writing] at closed
        cases closed
      · rw [List.map_nil, List.nil_append, List.nil_append, run, List.foldl_cons, List.foldl_nil, step, committed]
  | cons ledger others ih =>
      have inserted := faithful.insert ledger
      have fits := LedgerTable.addTo_of_fresh faithful.ordered.created (admits.fresh faithful)
      have reached : deposit.step (.insert ledger) =
          ⟨⟨deposit.session.table, ⟨some ((ledger :: deposit.pending).map ClosedLedger.row)⟩⟩,
            ledger :: deposit.pending, deposit.committed⟩ := by
        rw [step]
        simp only [LedgerSink.insert, LedgerTransactionState.insert, admits.writing, fits]
        rfl
      have moved : (others ++ ledger :: deposit.pending ++ deposit.committed).Perm
          (ledger :: others ++ deposit.pending ++ deposit.committed) :=
        List.perm_middle.append_right deposit.committed
      rw [reached] at inserted
      rw [List.map_cons, List.cons_append, run, List.foldl_cons, reached]
      exact (ih inserted ⟨rfl, (moved.map _).nodup_iff.mpr admits.distinct⟩).trans moved

theorem committed_transaction {deposit : Deposit} (faithful : deposit.Faithful) {ledgers : List ClosedLedger}
    (distinct : ((ledgers ++ deposit.committed).map ClosedLedger.sequence).Nodup) :
    (deposit.run (transaction ledgers)).committed.Perm (ledgers ++ deposit.committed) := by
  have admits : (deposit.step .openTransaction).Admits ledgers := by
    refine ⟨rfl, ?_⟩
    rw [step, List.append_nil]
    exact distinct
  have done := run_inserts (faithful.step .openTransaction) admits
  rw [step, List.append_nil] at done
  exact done

end Deposit

/--
Every ledger and every page of ledgers is read back from its JSON text and from its JSON value. So whatever calls were
made, reading the store gives back the ledgers that were inserted and committed, in the order of their sequences; and a
transaction commits all its ledgers if their sequences are free.
-/
theorem ClosedLedger.encoding_lossless :
    (∀ ledger : ClosedLedger, ClosedLedger.schema.ReadsBack ledger) ∧
    (∀ response : LedgersResponse, LedgersResponse.schema.ReadsBack response) ∧
    ∀ calls : List StoreCall, let deposit := Deposit.start.run calls
      (∃ stored : List ClosedLedger, stored.Perm deposit.committed ∧
        stored.Pairwise (fun earlier later => earlier.sequence < later.sequence) ∧
        ∀ start limit, LedgerSource.ledgers deposit.session start limit =
          .ok ((stored.filter fun ledger => start ≤ ledger.sequence).take limit.toNat)) ∧
      ∀ ledgers : List ClosedLedger, ((ledgers ++ deposit.committed).map ClosedLedger.sequence).Nodup →
        (deposit.run (Deposit.transaction ledgers)).committed.Perm (ledgers ++ deposit.committed) := by
  refine ⟨ClosedLedger.schema.readsBack lossless_schema shallow_schema, LedgersResponse.schema.readsBack
    LedgersResponse.lossless_schema LedgersResponse.shallow_schema, ?_⟩
  intro calls deposit
  have faithful : deposit.Faithful := Deposit.Faithful.start.run calls
  constructor
  · rcases faithful.ordered.stores faithful.committed with ⟨stored, rearranged, stores⟩
    exact ⟨stored, rearranged, stores.ascending, stores.ledgers_eq⟩
  · intro ledgers distinct
    exact Deposit.committed_transaction faithful distinct

/-- A ledger in which nothing happened. -/
def ClosedLedger.quiet (sequence : UInt32) : ClosedLedger := ⟨sequence, 0, "hash", 22, [], []⟩

/-- A ledger with the extreme sequence and close time and with a hash that needs escapes. -/
def ClosedLedger.extreme : ClosedLedger where
  sequence := 4294967295
  closeTime := Int64.minValue
  hash := "\x00\"\\\n"
  protocolVersion := 0
  envelopes := [⟨"é", [.payment, .other]⟩]
  receipts := [⟨-1, false, .third none⟩, ⟨1, true, .fourth (some ⟨.charged 2 3⟩)⟩]

/-- The ledger without its envelope and its second receipt. -/
def ClosedLedger.terse : ClosedLedger :=
  { ClosedLedger.extreme with envelopes := [], receipts := [⟨-1, false, .third none⟩] }

/-- Its text. -/
def ClosedLedger.terseText : String :=
  "\x7b\"sequence\":4294967295,\"closeTime\":-9223372036854775808,\"hash\":\"\\u0000\\\"\\\\\\n\"," ++
    "\"protocolVersion\":0,\"transactions\":[],\"txProcessing\":[" ++
    "\x7b\"feeCharged\":-1,\"successful\":false,\"meta\":\x7b\"v\":\"v3\",\"sorobanMeta\":null\x7d\x7d]\x7d"

theorem ClosedLedger.encoding_lossless_extreme :
    let genesis := { ClosedLedger.extreme with sequence := 0 }
    let deposit := Deposit.start.run (Deposit.transaction [.extreme, genesis])
    schema.write .terse = terseText ∧ schema.parse terseText = .ok .terse ∧ schema.ReadsBack .extreme ∧
    LedgersResponse.schema.ReadsBack ⟨[extreme.entry], 4294967295, Int64.minValue, 0, Int64.minValue, "4294967295"⟩ ∧
    deposit.committed.Perm [.extreme, genesis] ∧
    LedgerSource.ledgers deposit.session 0 2 = .ok [genesis, .extreme] ∧
    LedgerSource.ledgers deposit.session 1 2 = .ok [.extreme] := by
  intro genesis deposit
  rcases encoding_lossless with ⟨ledgers, responses, calls⟩
  have text : schema.write .terse = terseText := by decide +kernel
  have parsed := (ledgers .terse).ofText
  rw [text] at parsed
  have committed : deposit.committed.Perm [.extreme, genesis] := (calls []).2 [.extreme, genesis] (by decide)
  rcases (calls (Deposit.transaction [.extreme, genesis])).1 with ⟨stored, rearranged, ascending, read⟩
  have inOrder : stored = [genesis, .extreme] := by
    apply List.Perm.eq_of_pairwise _ ascending (by decide : [genesis, .extreme].Pairwise _)
    · exact (rearranged.trans committed).trans (.swap _ _ _)
    · intro one other _ _ before after
      exact absurd after (UInt32.lt_asymm before)
  rw [inOrder] at read
  exact ⟨text, parsed, ledgers _, responses _, committed, read 0 2, read 1 2⟩

end LedgerService
