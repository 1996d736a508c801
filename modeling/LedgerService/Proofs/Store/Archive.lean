import LedgerService.Proofs.Store.Catalogue
import LedgerService.Proofs.Store.Contents

/-!
# The archive

A ledger table with all the transactions that were ever opened on it, finished or not, each of which can be called at
any time. `Archive.Follows` relates it to a catalogue: the rows of the table are those of the committed ledgers in
order, and the rows of an open transaction those of its draft. Every allowed call keeps the two together and is
answered in the same way by both (`Archive.Follows.answer`), so an archive acts as an ordered map that is written in
transactions (`Archive.acts_as_map`).
-/

namespace LedgerService

theorem getD_set {α : Type} (elements : List α) (place other : Nat) (value default : α) :
    (elements.set place value).getD other default =
      if place = other ∧ place < elements.length then value else elements.getD other default := by
  simp only [List.getD_eq_getElem?_getD, List.getElem?_set]
  by_cases same : place = other
  · by_cases inside : other < elements.length <;> simp [same, inside]
  · simp [same]

theorem getD_concat {α : Type} (elements : List α) (place : Nat) (value default : α) :
    (elements ++ [value]).getD place default =
      if place = elements.length then value else elements.getD place default := by
  rcases Nat.lt_trichotomy place elements.length with inside | same | beyond
  · simp [List.getElem?_append_left inside, Nat.ne_of_lt inside]
  · simp [same]
  · have outside : (elements ++ [value]).length ≤ place := by
      rw [List.length_append, List.length_singleton]
      exact beyond
    simp [List.getElem?_eq_none outside, List.getElem?_eq_none (Nat.le_of_lt beyond), Nat.ne_of_gt beyond]

theorem set_getD_self {α : Type} (elements : List α) (place : Nat) (default : α) :
    elements.set place (elements.getD place default) = elements := by
  by_cases inside : place < elements.length
  · simp [inside]
  · simp [List.set_eq_of_length_le (Nat.not_lt.mp inside)]

theorem LedgerTable.Stores.ordered {table : LedgerTable} {ledgers : List ClosedLedger} (stores : table.Stores ledgers) :
    (LedgerSession.on table).Ordered := by
  apply LedgerSession.ordered_on stores.created
  rw [stores.rows, Ascending, List.pairwise_map]
  exact stores.ascending.imp ClosedLedger.sequence_row_lt_iff.mpr

/-- A row whose sequence is taken is refused. -/
theorem LedgerTable.addTo_of_taken {table : LedgerTable} {added : List LedgerRow} {row other : LedgerRow}
    (created : table.created = true) (known : other ∈ added ++ table.rows) (same : other.sequence = row.sequence) :
    table.addTo added row = .error taken := by
  have held : (holds table.rows row.sequence || holds added row.sequence) = true := by
    rw [Bool.or_eq_true, holds, holds, List.any_eq_true, List.any_eq_true]
    rcases List.mem_append.mp known with inside | outside
    · exact .inr ⟨other, inside, beq_iff_eq.mpr same⟩
    · exact .inl ⟨other, outside, beq_iff_eq.mpr same⟩
  simp [addTo, created, held]

/-- A table with the transactions that were opened on it. -/
structure Archive where
  table : LedgerTable
  transactions : List LedgerTransactionState

namespace Archive

/-- An empty table. -/
def blank : Archive := ⟨LedgerTable.blank.create, []⟩

/-- The session of a transaction. -/
def session (archive : Archive) (transaction : Nat) : LedgerSession :=
  ⟨archive.table, archive.transactions.getD transaction .closed⟩

/-- The archive after a call to the session of a transaction. -/
def resume (archive : Archive) (transaction : Nat) (session : LedgerSession) : Archive :=
  ⟨session.table, archive.transactions.set transaction session.transaction⟩

/-- Calls the session of a transaction. -/
def within (archive : Archive) (transaction : Nat) (call : LedgerSession → LedgerSession × Except Failure Unit) :
    Archive × ArchiveReply :=
  (archive.resume transaction (call (archive.session transaction)).1,
    .done (call (archive.session transaction)).2)

/-- Answers a call. -/
def answer (archive : Archive) : ArchiveCall → Archive × ArchiveReply
  | .openTransaction =>
    let (session, result) := LedgerSink.openTransaction (LedgerSession.on archive.table)
    (⟨session.table, archive.transactions ++ [session.transaction]⟩, .done result)
  | .insert transaction ledger => archive.within transaction (LedgerSink.insert ledger)
  | .commit transaction => archive.within transaction LedgerSink.commit
  | .rollback transaction => archive.within transaction LedgerSink.rollback
  | .drop transaction => (archive.resume transaction (.on archive.table), .dropped)
  | .readRange => (archive, .range (LedgerSource.range archive.table))
  | .readLatest => (archive, .latest (LedgerSource.latest archive.table))
  | .readLedgers start limit => (archive, .ledgers (LedgerSource.ledgers archive.table start limit))

/-- The session is finished, or it has the rows of the draft, which fit into the table. -/
inductive Drafts : LedgerSession → Option LedgerMap → Prop where
  | finished {table : LedgerTable} : Drafts (.on table) none
  | writing {table : LedgerTable} {pending : List ClosedLedger} {draft : LedgerMap} (lists : draft.Lists pending)
      (ordered : LedgerSession.Ordered ⟨table, ⟨some (pending.map ClosedLedger.row)⟩⟩) :
      Drafts ⟨table, ⟨some (pending.map ClosedLedger.row)⟩⟩ (some draft)

/-- The archive has the contents of the catalogue, and at most one transaction is open. -/
structure Follows (archive : Archive) (catalogue : Catalogue) : Prop where
  stored : ∃ stored, archive.table.Stores stored ∧ catalogue.committed.Lists stored
  length : archive.transactions.length = catalogue.drafts.length
  drafts : ∀ transaction, Drafts (archive.session transaction) (catalogue.draft? transaction)
  single : ∀ one other, (catalogue.draft? one).isSome → (catalogue.draft? other).isSome → one = other

theorem resume_session (archive : Archive) (transaction : Nat) :
    archive.resume transaction (archive.session transaction) = archive := by
  rw [resume, session, set_getD_self]

/-- A call that a session refuses without a trace. -/
theorem within_of_refused {archive : Archive} {transaction : Nat} {session : LedgerSession}
    {call : LedgerSession → LedgerSession × Except Failure Unit} {failure : Failure}
    (reached : archive.session transaction = session) (refused : call session = (session, .error failure)) :
    archive.within transaction call = (archive, .done (.error failure)) := by
  rw [within, reached, refused, ← reached, resume_session]

namespace Follows

variable {archive : Archive} {catalogue : Catalogue}

theorem blank : Archive.blank.Follows .blank := by
  refine ⟨⟨[], ⟨rfl, rfl, .nil⟩, LedgerMap.Lists.empty⟩, rfl, ?_, ?_⟩
  · intro transaction
    exact .finished
  · simp [Catalogue.blank, Catalogue.draft?]

/-- A transaction is finished in both, or open in both with the same ledgers. -/
theorem session_cases (follows : archive.Follows catalogue) (transaction : Nat) :
    (catalogue.draft? transaction = none ∧ archive.session transaction = .on archive.table) ∨
    ∃ pending draft, catalogue.draft? transaction = some draft ∧
      archive.session transaction = ⟨archive.table, ⟨some (pending.map ClosedLedger.row)⟩⟩ ∧
      draft.Lists pending ∧
      LedgerSession.Ordered ⟨archive.table, ⟨some (pending.map ClosedLedger.row)⟩⟩ := by
  have drafted := follows.drafts transaction
  have table : (archive.session transaction).table = archive.table := rfl
  generalize archive.session transaction = session at drafted table
  generalize catalogue.draft? transaction = draft at drafted
  cases drafted with
  | finished =>
      left
      exact ⟨rfl, congrArg LedgerSession.on table⟩
  | writing lists ordered =>
      right
      cases table
      exact ⟨_, _, rfl, rfl, lists, ordered⟩

theorem getElem?_of_draft? {transaction : Nat} {draft : LedgerMap}
    (writing : catalogue.draft? transaction = some draft) : catalogue.drafts[transaction]? = some (some draft) := by
  rw [Catalogue.draft?, List.getD_eq_getElem?_getD] at writing
  cases found : catalogue.drafts[transaction]? with
  | none => simp [found] at writing
  | some revised => simpa [found] using writing

theorem closed_of_none (follows : archive.Follows catalogue) {transaction : Nat}
    (finished : catalogue.draft? transaction = none) : archive.transactions.getD transaction .closed = .closed := by
  rcases follows.session_cases transaction with ⟨-, session⟩ | ⟨_, _, writing, -⟩
  · exact congrArg LedgerSession.transaction session
  · simp [finished] at writing

/-- A call to the open transaction leaves the others alone, which are finished. -/
theorem resume (follows : archive.Follows catalogue) {transaction : Nat} {old : LedgerMap}
    (writing : catalogue.draft? transaction = some old) {session : LedgerSession} {committed : LedgerMap}
    {draft : Option LedgerMap} (stored : ∃ stored, session.table.Stores stored ∧ committed.Lists stored)
    (drafted : Drafts session draft) :
    (archive.resume transaction session).Follows
      (Catalogue.revise { catalogue with committed } transaction draft) := by
  have inside := (List.getElem?_eq_some_iff.mp (getElem?_of_draft? writing)).1
  have finished : ∀ other, transaction ≠ other → catalogue.draft? other = none := by
    intro other different
    cases found : catalogue.draft? other with
    | none => rfl
    | some _ => exact absurd (follows.single transaction other (by simp [writing]) (by simp [found])) different
  have revised : ∀ other, (Catalogue.revise { catalogue with committed } transaction draft).draft? other =
      if transaction = other then draft else none := by
    intro other
    rw [Catalogue.draft?, Catalogue.revise, getD_set]
    by_cases same : transaction = other
    · simp [same, same ▸ inside]
    · simp only [same, false_and, if_false]
      exact finished other same
  refine ⟨stored, ?_, ?_, ?_⟩
  · simp [Archive.resume, Catalogue.revise, follows.length]
  · intro other
    rw [revised, Archive.session, Archive.resume, getD_set, follows.length]
    by_cases same : transaction = other
    · simpa [same, same ▸ inside] using drafted
    · have closed := follows.closed_of_none (finished other same)
      simp only [same, false_and, if_false]
      rw [closed]
      exact .finished
  · intro one other
    rw [revised, revised]
    by_cases same : transaction = one <;> by_cases same' : transaction = other <;> simp_all

theorem opened (follows : archive.Follows catalogue) (idle : catalogue.isWriting = false) :
    (archive.answer .openTransaction).1.Follows (catalogue.answer .openTransaction).1 := by
  have finished : ∀ transaction, catalogue.draft? transaction = none := by
    intro transaction
    cases found : catalogue.draft? transaction with
    | none => rfl
    | some draft =>
        have closed := List.any_eq_false.mp idle _ (List.mem_of_getElem? (getElem?_of_draft? found))
        simp at closed
  have revised : ∀ transaction, (catalogue.answer .openTransaction).1.draft? transaction =
      if transaction = catalogue.drafts.length then some .empty else none := by
    intro transaction
    simp only [Catalogue.answer, Catalogue.draft?, getD_concat]
    rw [← Catalogue.draft?, finished]
  refine ⟨follows.stored, ?_, ?_, ?_⟩
  · simp [Archive.answer, Catalogue.answer, follows.length]
  · intro transaction
    rw [revised]
    simp only [Archive.session, Archive.answer, getD_concat, follows.length]
    split
    · rcases follows.stored with ⟨stored, stores, -⟩
      exact Drafts.writing LedgerMap.Lists.empty stores.ordered.openTransaction
    · rw [follows.closed_of_none (finished transaction)]
      exact .finished
  · intro one other
    rw [revised, revised]
    split <;> split <;> simp_all

theorem taken_iff {stored pending : List ClosedLedger} {draft : LedgerMap} {ledger : ClosedLedger}
    (stores : archive.table.Stores stored) (lists : catalogue.committed.Lists stored) (drafted : draft.Lists pending) :
    (∃ other ∈ pending.map ClosedLedger.row ++ archive.table.rows, other.sequence = ledger.row.sequence) ↔
      (catalogue.committed ledger.sequence).isSome ∨ (draft ledger.sequence).isSome := by
  have same : ∀ other : ClosedLedger,
      other.row.sequence = ledger.row.sequence ↔ other.sequence = ledger.sequence := by
    intro other
    constructor
    · exact ClosedLedger.sequence_row_inj
    · intro equal
      simp [ClosedLedger.row, equal]
  rw [lists.isSome_iff, drafted.isSome_iff, stores.rows, ← List.map_append]
  simp only [List.mem_map, List.mem_append]
  constructor
  · rintro ⟨-, ⟨other, inside | outside, rfl⟩, equal⟩
    · exact .inr ⟨other, inside, (same other).mp equal⟩
    · exact .inl ⟨other, outside, (same other).mp equal⟩
  · rintro (⟨other, outside, equal⟩ | ⟨other, inside, equal⟩)
    · exact ⟨other.row, ⟨other, .inr outside, rfl⟩, (same other).mpr equal⟩
    · exact ⟨other.row, ⟨other, .inl inside, rfl⟩, (same other).mpr equal⟩

/-- A ledger is refused exactly if its sequence is committed or in the draft. -/
theorem insert (follows : archive.Follows catalogue) (transaction : Nat) (ledger : ClosedLedger) :
    (archive.answer (.insert transaction ledger)).1.Follows (catalogue.answer (.insert transaction ledger)).1 ∧
      (archive.answer (.insert transaction ledger)).2 = (catalogue.answer (.insert transaction ledger)).2 := by
  simp only [Archive.answer, Catalogue.answer]
  rcases follows.session_cases transaction with ⟨none, finished⟩ | ⟨pending, draft, writing, reached, drafted, ordered⟩
  · rw [none, within_of_refused finished rfl]
    exact ⟨follows, rfl⟩
  · rcases follows.stored with ⟨stored, stores, lists⟩
    rw [writing]
    dsimp only
    split
    case isTrue taken =>
      rcases (taken_iff stores lists drafted).mpr taken with ⟨other, inside, same⟩
      have refused : LedgerSink.insert ledger
          (⟨archive.table, ⟨some (pending.map ClosedLedger.row)⟩⟩ : LedgerSession) =
          (⟨archive.table, ⟨some (pending.map ClosedLedger.row)⟩⟩, .error LedgerTable.taken) := by
        simp [LedgerSink.insert, LedgerTransactionState.insert, LedgerTable.addTo_of_taken stores.created inside same]
      rw [within_of_refused reached refused]
      exact ⟨follows, rfl⟩
    case isFalse free =>
      have fresh : ∀ other ∈ pending.map ClosedLedger.row ++ archive.table.rows,
          other.sequence ≠ ledger.row.sequence := by
        intro other inside same
        exact free ((taken_iff stores lists drafted).mp ⟨other, inside, same⟩)
      have accepted := LedgerTable.addTo_of_fresh stores.created fresh
      have inserted : LedgerSink.insert ledger (archive.session transaction) =
          (⟨archive.table, ⟨some ((ledger :: pending).map ClosedLedger.row)⟩⟩, .ok ()) := by
        simp [reached, LedgerSink.insert, LedgerTransactionState.insert, accepted]
      have kept := ordered.insert ledger
      rw [← reached, inserted] at kept
      rw [within, inserted]
      refine ⟨?_, rfl⟩
      apply follows.resume writing ⟨stored, stores, lists⟩
      exact .writing (drafted.enter (by simpa using not_or.mp free |>.2)) kept

theorem commit (follows : archive.Follows catalogue) (transaction : Nat) :
    (archive.answer (.commit transaction)).1.Follows (catalogue.answer (.commit transaction)).1 ∧
      (archive.answer (.commit transaction)).2 = (catalogue.answer (.commit transaction)).2 := by
  simp only [Archive.answer, Catalogue.answer]
  rcases follows.session_cases transaction with ⟨none, finished⟩ | ⟨pending, draft, writing, reached, drafted, ordered⟩
  · rw [none, within_of_refused finished rfl]
    exact ⟨follows, rfl⟩
  · rcases follows.stored with ⟨stored, stores, lists⟩
    rw [writing, within, reached]
    refine ⟨?_, rfl⟩
    have rows := LedgerTable.foldr_place_perm (pending.map ClosedLedger.row) archive.table.rows
    rw [stores.rows, ← List.map_append] at rows
    rcases ordered.commit.stores (stores.rows ▸ rows) with ⟨whole, together, holds⟩
    apply follows.resume writing ⟨whole, holds, drafted.overlay lists together holds.ascending⟩
    exact .finished

theorem rollback (follows : archive.Follows catalogue) (transaction : Nat) :
    (archive.answer (.rollback transaction)).1.Follows (catalogue.answer (.rollback transaction)).1 ∧
      (archive.answer (.rollback transaction)).2 = (catalogue.answer (.rollback transaction)).2 := by
  simp only [Archive.answer, Catalogue.answer]
  rcases follows.session_cases transaction with ⟨none, finished⟩ | ⟨pending, draft, writing, reached, -⟩
  · rw [none, within_of_refused finished rfl]
    exact ⟨follows, rfl⟩
  · rw [writing, within, reached]
    refine ⟨?_, rfl⟩
    exact follows.resume writing follows.stored .finished

theorem drop (follows : archive.Follows catalogue) (transaction : Nat) :
    (archive.answer (.drop transaction)).1.Follows (catalogue.answer (.drop transaction)).1 := by
  simp only [Archive.answer, Catalogue.answer]
  rcases follows.session_cases transaction with ⟨none, finished⟩ | ⟨pending, draft, writing, reached, -⟩
  · rw [← finished, resume_session, Catalogue.revise, ← none, Catalogue.draft?, set_getD_self]
    exact follows
  · exact follows.resume writing follows.stored .finished

/-- An allowed call is answered in the same way by the archive and by the catalogue. -/
theorem answer (follows : archive.Follows catalogue) {call : ArchiveCall} (allowed : catalogue.allows call = true) :
    (archive.answer call).1.Follows (catalogue.answer call).1 ∧ (archive.answer call).2 = (catalogue.answer call).2 := by
  rcases follows.stored with ⟨stored, stores, lists⟩
  cases call with
  | openTransaction => exact ⟨follows.opened (by simpa [Catalogue.allows] using allowed), rfl⟩
  | insert transaction ledger => exact follows.insert transaction ledger
  | commit transaction => exact follows.commit transaction
  | rollback transaction => exact follows.rollback transaction
  | drop transaction => exact ⟨follows.drop transaction, rfl⟩
  | readRange =>
      refine ⟨follows, ?_⟩
      simp only [Archive.answer, Catalogue.answer, LedgerSource.range, stores.range, LedgerMap.range?,
        lists.listing_eq stores.ascending]
  | readLatest =>
      refine ⟨follows, ?_⟩
      simp only [Archive.answer, Catalogue.answer, LedgerSource.latest, stores.latest, LedgerMap.newest?,
        lists.listing_eq stores.ascending]
  | readLedgers start limit =>
      refine ⟨follows, ?_⟩
      simp only [Archive.answer, Catalogue.answer, LedgerSource.ledgers, stores.ledgers_eq, LedgerMap.page,
        lists.listing_eq stores.ascending, ClosedLedger.since]

/-- The induction is on the calls; each is made on the archive and the catalogue that the calls before have left. -/
theorem answerAll (follows : archive.Follows catalogue) {calls : List ArchiveCall}
    (allowed : catalogue.allowsAll calls = true) :
    (LedgerService.answerAll Archive.answer archive calls).1.Follows
        (LedgerService.answerAll Catalogue.answer catalogue calls).1 ∧
      (LedgerService.answerAll Archive.answer archive calls).2 =
        (LedgerService.answerAll Catalogue.answer catalogue calls).2 := by
  induction calls generalizing archive catalogue with
  | nil => exact ⟨follows, rfl⟩
  | cons call others ih =>
      rw [Catalogue.allowsAll, Bool.and_eq_true] at allowed
      rcases follows.answer allowed.1 with ⟨next, reply⟩
      rcases ih next allowed.2 with ⟨final, replies⟩
      exact ⟨final, congr (congrArg List.cons reply) replies⟩

end Follows

theorem on_of_finished {session : LedgerSession} (finished : session.transaction.added = none) :
    LedgerSession.on session.table = session := by
  rcases session with ⟨table, ⟨added⟩⟩
  cases finished
  rfl

theorem unchanged_within {archive : Archive} {transaction : Nat} {failure : Failure}
    {call : LedgerSession → LedgerSession × Except Failure Unit}
    (keeps : ∀ session, (call session).2 = .error failure → (call session).1 = session)
    (failed : (archive.within transaction call).2 = .done (.error failure)) :
    (archive.within transaction call).1 = archive := by
  simp only [within, ArchiveReply.done.injEq] at failed ⊢
  rw [keeps _ failed, resume_session]

/-- A call that fails changes nothing. -/
theorem unchanged_of_error {archive : Archive} {call : ArchiveCall} {failure : Failure}
    (failed : (archive.answer call).2 = .done (.error failure)) : (archive.answer call).1 = archive := by
  cases call with
  | insert transaction ledger =>
      apply unchanged_within _ failed
      intro session refused
      rcases LedgerSession.insert_cases ledger session with ⟨_, unchanged⟩ | ⟨_, -, -, inserted⟩
      · rw [unchanged]
      · simp [inserted] at refused
  | commit transaction =>
      apply unchanged_within _ failed
      intro session refused
      rcases LedgerSession.commit_cases session with ⟨finished, unchanged⟩ | ⟨_, -, committed⟩
      · rw [unchanged, on_of_finished finished]
      · simp [committed] at refused
  | rollback transaction =>
      apply unchanged_within _ failed
      intro session refused
      cases finished : session.transaction.added with
      | none => exact on_of_finished finished
      | some added => simp [LedgerSink.rollback, LedgerTransactionState.rollback, finished] at refused
  | _ => cases failed

/--
However the calls are interleaved, as long as no two transactions are open at a time and nothing is read while one is:
the replies are those of a map from sequences to ledgers that is written in transactions, and a call that fails changes
nothing. The map is read in the order of its sequences; its range are the least and the greatest of them, and its
newest ledger is the last one that can be read.
-/
theorem acts_as_map (calls : List ArchiveCall) (allowed : Catalogue.blank.allowsAll calls = true) :
    let archive := (LedgerService.answerAll answer blank calls).1
    let committed := (LedgerService.answerAll Catalogue.answer .blank calls).1.committed
    (LedgerService.answerAll answer blank calls).2 = (LedgerService.answerAll Catalogue.answer .blank calls).2 ∧
    (∀ call failure, (archive.answer call).2 = .done (.error failure) → (archive.answer call).1 = archive) ∧
    committed.listing.Pairwise (fun earlier later => earlier.sequence < later.sequence) ∧
    (∀ ledger, ledger ∈ committed.listing ↔ committed ledger.sequence = some ledger) ∧
    (committed.range? = none ↔ ∀ sequence, committed sequence = none) ∧
    (∀ range, committed.range? = some range →
      (committed range.first).isSome ∧ (committed range.last).isSome ∧
        ∀ sequence, (committed sequence).isSome → range.first ≤ sequence ∧ sequence ≤ range.last) ∧
    ∀ newest, committed.newest? = some newest →
      (∀ limit, 0 < limit → committed.page newest.sequence limit = [newest]) ∧
        ∀ start limit, ∀ ledger ∈ committed.page start limit, ledger.sequence ≤ newest.sequence := by
  intro archive committed
  rcases Follows.blank.answerAll allowed with ⟨follows, replies⟩
  rcases follows.stored with ⟨stored, stores, lists⟩
  have listing : committed.listing = stored := lists.listing_eq stores.ascending
  refine ⟨replies, ?_, ?_, ?_, ?_, ?_, ?_⟩
  · intro call failure
    exact unchanged_of_error
  · rw [listing]
    exact stores.ascending
  · intro ledger
    rw [listing]
    exact lists.mem
  · exact lists.range?_eq_none stores.ascending
  · intro range
    exact lists.range?_bounds stores.ascending
  · intro newest
    exact lists.page_newest stores.ascending

/-- A ledger is inserted twice and another one once, and both are committed; then the transaction is called again. -/
def sevenCalls : List ArchiveCall :=
  [.openTransaction, .insert 0 .extreme, .insert 0 .extreme, .insert 0 { ClosedLedger.extreme with sequence := 0 },
    .commit 0, .rollback 0, .readRange]

/-- The replies to these calls. -/
def sevenReplies : List ArchiveReply :=
  [.done (.ok ()), .done (.ok ()), .done (.error LedgerTable.taken), .done (.ok ()), .done (.ok ()),
    .done (.error LedgerTable.finished), .range (.ok (some ⟨0, 4294967295⟩))]

theorem acts_as_map_sevenCalls :
    let committed := (LedgerService.answerAll Catalogue.answer .blank sevenCalls).1.committed
    Catalogue.blank.allowsAll sevenCalls = true ∧ (LedgerService.answerAll answer blank sevenCalls).2 = sevenReplies ∧
    (LedgerService.answerAll Catalogue.answer .blank sevenCalls).2 = sevenReplies ∧
    committed 0 = some { ClosedLedger.extreme with sequence := 0 } ∧ committed 4294967295 = some .extreme := by
  intro committed
  have allowed : Catalogue.blank.allowsAll sevenCalls = true := by decide
  have replies : (LedgerService.answerAll answer blank sevenCalls).2 = sevenReplies := rfl
  exact ⟨allowed, replies, (acts_as_map sevenCalls allowed).1.symm.trans replies, rfl, rfl⟩

end Archive

end LedgerService
