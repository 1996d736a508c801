import LedgerService.Proofs.Ledger.Gaps
import LedgerService.Store.Table
import Mathlib.Data.List.FinRange

/-!
# The catalogue

What a store of ledgers is meant to be: a map from sequences to ledgers (`LedgerMap`) that is written in transactions.
A transaction has a draft, a map of its own, which becomes part of the committed map when the transaction is committed
and is lost otherwise. `Catalogue.answer` says what every call to the store is to be answered with. A map is read in
the order of its sequences; `LedgerMap.Lists.listing_eq` finds the one ascending list of its ledgers.
-/

namespace LedgerService

/-- A partial map from sequences to ledgers. -/
abbrev LedgerMap := UInt32 → Option ClosedLedger

namespace LedgerMap

/-- The map without ledgers. -/
def empty : LedgerMap := fun _ => none

/-- The map with a ledger under its sequence. -/
def enter (entries : LedgerMap) (ledger : ClosedLedger) : LedgerMap :=
  fun sequence => if sequence = ledger.sequence then some ledger else entries sequence

/-- The ledgers of both maps. -/
def overlay (draft entries : LedgerMap) : LedgerMap := fun sequence => (draft sequence).or (entries sequence)

/-- The ledgers of the map in the order of their sequences. -/
def listing (entries : LedgerMap) : List ClosedLedger :=
  (List.finRange UInt32.size).filterMap fun number => entries (.ofFin number)

/-- The least and the greatest sequence. -/
def range? (entries : LedgerMap) : Option SequenceRange := ClosedLedger.ends? entries.listing

/-- The ledger with the greatest sequence. -/
def newest? (entries : LedgerMap) : Option ClosedLedger := entries.listing.getLast?

/-- The first ledgers, at most `limit` of them, from the sequence `start` on. -/
def page (entries : LedgerMap) (start limit : UInt32) : List ClosedLedger :=
  (entries.listing.filter fun ledger => start ≤ ledger.sequence).take limit.toNat

/-- The map has the ledgers of the list, each under its sequence. -/
def Lists (entries : LedgerMap) (ledgers : List ClosedLedger) : Prop :=
  ∀ sequence ledger, entries sequence = some ledger ↔ ledger ∈ ledgers ∧ ledger.sequence = sequence

namespace Lists

variable {entries : LedgerMap} {ledgers : List ClosedLedger}

theorem empty : LedgerMap.empty.Lists [] := by
  simp [Lists, LedgerMap.empty]

theorem mem (lists : entries.Lists ledgers) {ledger : ClosedLedger} :
    ledger ∈ ledgers ↔ entries ledger.sequence = some ledger := by
  simp [lists ledger.sequence ledger]

theorem isSome_iff (lists : entries.Lists ledgers) {sequence : UInt32} :
    (entries sequence).isSome ↔ ∃ ledger ∈ ledgers, ledger.sequence = sequence := by
  simp [Option.isSome_iff_exists, lists sequence]

theorem eq_none (lists : entries.Lists ledgers) {sequence : UInt32} :
    entries sequence = none ↔ ∀ ledger ∈ ledgers, ledger.sequence ≠ sequence := by
  rw [← Option.not_isSome_iff_eq_none, lists.isSome_iff]
  simp

theorem enter (lists : entries.Lists ledgers) {ledger : ClosedLedger} (free : entries ledger.sequence = none) :
    (entries.enter ledger).Lists (ledger :: ledgers) := by
  intro sequence other
  simp only [LedgerMap.enter, List.mem_cons]
  split
  case isTrue own =>
    subst own
    constructor
    · intro found
      simp [Option.some.inj found]
    · rintro ⟨rfl | member, same⟩
      · rfl
      · exact absurd same (lists.eq_none.mp free other member)
  case isFalse elsewhere =>
    rw [lists sequence other]
    constructor
    · rintro ⟨member, same⟩
      exact ⟨.inr member, same⟩
    · rintro ⟨rfl | member, same⟩
      · exact absurd same.symm elsewhere
      · exact ⟨member, same⟩

theorem overlay {draft : LedgerMap} {pending whole : List ClosedLedger} (drafted : draft.Lists pending)
    (lists : entries.Lists ledgers) (together : whole.Perm (pending ++ ledgers))
    (ascending : ClosedLedger.Ascending whole) : (draft.overlay entries).Lists whole := by
  intro sequence ledger
  rw [together.mem_iff, List.mem_append]
  simp only [LedgerMap.overlay]
  cases found : draft sequence with
  | none =>
      simp only [Option.none_or, lists sequence ledger]
      constructor
      · rintro ⟨member, same⟩
        exact ⟨.inr member, same⟩
      · rintro ⟨member | member, same⟩
        · exact absurd same (drafted.eq_none.mp found ledger member)
        · exact ⟨member, same⟩
  | some first =>
      rcases (drafted sequence first).mp found with ⟨inside, rfl⟩
      simp only [Option.some_or, Option.some.injEq]
      constructor
      · rintro rfl
        exact ⟨.inl inside, rfl⟩
      · rintro ⟨member, same⟩
        apply ascending.eq_of_sequence _ _ same.symm
        · exact together.mem_iff.mpr (List.mem_append_left _ inside)
        · exact together.mem_iff.mpr (List.mem_append.mpr member)

/-- There is only one list of the ledgers in the order of their sequences. -/
theorem listing_eq (lists : entries.Lists ledgers) (ascending : ClosedLedger.Ascending ledgers) :
    entries.listing = ledgers := by
  have inOrder : ClosedLedger.Ascending entries.listing := by
    refine List.Pairwise.filterMap _ ?_ (List.pairwise_lt_finRange UInt32.size)
    intro number greater less ledger found other found'
    rw [((lists _ _).mp found).2, ((lists _ _).mp found').2]
    exact UInt32.ofFin_lt_iff_lt.mpr less
  have distinct : ∀ {some : List ClosedLedger}, ClosedLedger.Ascending some → some.Nodup := by
    intro some ordered
    apply ordered.imp
    rintro ledger _ less rfl
    exact UInt32.lt_irrefl _ less
  have same : entries.listing.Perm ledgers := by
    rw [List.perm_ext_iff_of_nodup (distinct inOrder) (distinct ascending)]
    intro ledger
    rw [lists.mem]
    simp only [listing, List.mem_filterMap]
    constructor
    · rintro ⟨number, -, found⟩
      rwa [((lists _ _).mp found).2]
    · intro found
      exact ⟨ledger.sequence.toFin, List.mem_finRange _, found⟩
  apply same.eq_of_pairwise _ inOrder ascending
  intro one other _ _ less greater
  exact absurd less (UInt32.lt_asymm greater)

section

variable (lists : entries.Lists ledgers) (ascending : ClosedLedger.Ascending ledgers)

include lists ascending

theorem range?_eq_none : entries.range? = none ↔ ∀ sequence, entries sequence = none := by
  rw [range?, lists.listing_eq ascending]
  constructor
  · intro none sequence
    rw [lists.eq_none, ClosedLedger.ends_eq_none none]
    exact nofun
  · intro free
    cases ledgers with
    | nil => rfl
    | cons first others => exact absurd rfl (lists.eq_none.mp (free first.sequence) first List.mem_cons_self)

theorem range?_bounds {range : SequenceRange} (ends : entries.range? = some range) :
    (entries range.first).isSome ∧ (entries range.last).isSome ∧
      ∀ sequence, (entries sequence).isSome → range.first ≤ sequence ∧ sequence ≤ range.last := by
  rw [range?, lists.listing_eq ascending] at ends
  have least := ascending.first_le ends
  have greatest := (ascending.bounds ends).2.1
  rcases ClosedLedger.ends_eq_some ends with ⟨first, last, found, newest, rfl⟩
  refine ⟨?_, ?_, ?_⟩
  · simp [lists.mem.mp (List.mem_of_head? found)]
  · simp [lists.mem.mp (List.mem_of_getLast? newest)]
  · intro sequence there
    rcases Option.isSome_iff_exists.mp there with ⟨ledger, inside⟩
    rcases (lists _ _).mp inside with ⟨member, rfl⟩
    exact ⟨least ledger member, greatest ledger member⟩

/-- The newest ledger is the last that can be read, and is read alone from its own sequence on. -/
theorem page_newest {newest : ClosedLedger} (last : entries.newest? = some newest) :
    (∀ limit, 0 < limit → entries.page newest.sequence limit = [newest]) ∧
      ∀ start limit, ∀ ledger ∈ entries.page start limit, ledger.sequence ≤ newest.sequence := by
  simp only [newest?, page, lists.listing_eq ascending] at last ⊢
  constructor
  · intro limit positive
    rcases List.getLast?_eq_some_iff.mp last with ⟨earlier, rfl⟩
    have own := ascending.since_own
    rw [ClosedLedger.since] at own
    rw [own]
    apply List.take_of_length_le
    exact UInt32.lt_iff_toNat_lt.mp positive
  · intro start limit ledger read
    exact ascending.le_last last ledger (List.mem_of_mem_filter (List.mem_of_mem_take read))

end

end Lists

end LedgerMap

/-- A call to a store with any number of transactions, which are numbered as they are opened. -/
inductive ArchiveCall where
  | openTransaction
  | insert (transaction : Nat) (ledger : ClosedLedger)
  | commit (transaction : Nat)
  | rollback (transaction : Nat)
  | drop (transaction : Nat)
  | readRange
  | readLatest
  | readLedgers (start limit : UInt32)

/-- What a call gives back. -/
inductive ArchiveReply where
  | done (result : Except Failure Unit)
  | dropped
  | range (result : Except Failure (Option SequenceRange))
  | latest (result : Except Failure (Option LedgerSummary))
  | ledgers (result : Except Failure (List ClosedLedger))

/-- Answers calls one after the other. -/
def answerAll {σ κ ρ : Type} (answer : σ → κ → σ × ρ) : σ → List κ → σ × List ρ
  | state, [] => (state, [])
  | state, call :: others =>
    let (next, reply) := answer state call
    let (final, replies) := answerAll answer next others
    (final, reply :: replies)

/-- The committed ledgers and the drafts of the transactions, none of a finished one. -/
structure Catalogue where
  committed : LedgerMap
  drafts : List (Option LedgerMap)

namespace Catalogue

/-- No ledgers and no transactions. -/
def blank : Catalogue := ⟨.empty, []⟩

/-- The draft of a transaction, none if it is finished. -/
def draft? (catalogue : Catalogue) (transaction : Nat) : Option LedgerMap := catalogue.drafts.getD transaction none

/-- Some transaction is not finished. -/
def isWriting (catalogue : Catalogue) : Bool := catalogue.drafts.any Option.isSome

/-- The catalogue with another draft of a transaction. -/
def revise (catalogue : Catalogue) (transaction : Nat) (draft : Option LedgerMap) : Catalogue :=
  { catalogue with drafts := catalogue.drafts.set transaction draft }

/-- What a call is to be answered with, and what it changes. -/
def answer (catalogue : Catalogue) : ArchiveCall → Catalogue × ArchiveReply
  | .openTransaction => ({ catalogue with drafts := catalogue.drafts ++ [some .empty] }, .done (.ok ()))
  | .insert transaction ledger =>
    match catalogue.draft? transaction with
    | none => (catalogue, .done (.error LedgerTable.finished))
    | some draft =>
      if (catalogue.committed ledger.sequence).isSome ∨ (draft ledger.sequence).isSome then
        (catalogue, .done (.error LedgerTable.taken))
      else (catalogue.revise transaction (some (draft.enter ledger)), .done (.ok ()))
  | .commit transaction =>
    match catalogue.draft? transaction with
    | none => (catalogue, .done (.error LedgerTable.finished))
    | some draft =>
      ({ catalogue with committed := draft.overlay catalogue.committed }.revise transaction none, .done (.ok ()))
  | .rollback transaction =>
    match catalogue.draft? transaction with
    | none => (catalogue, .done (.error LedgerTable.finished))
    | some _ => (catalogue.revise transaction none, .done (.ok ()))
  | .drop transaction => (catalogue.revise transaction none, .dropped)
  | .readRange => (catalogue, .range (.ok catalogue.committed.range?))
  | .readLatest => (catalogue, .latest (.ok (catalogue.committed.newest?.map ClosedLedger.summary)))
  | .readLedgers start limit => (catalogue, .ledgers (.ok (catalogue.committed.page start limit)))

/-- Transactions are opened, and ledgers read, while no other transaction is open. -/
def allows (catalogue : Catalogue) : ArchiveCall → Bool
  | .openTransaction | .readRange | .readLatest | .readLedgers _ _ => !catalogue.isWriting
  | _ => true

/-- All the calls are allowed when they are made one after the other. -/
def allowsAll (catalogue : Catalogue) : List ArchiveCall → Bool
  | [] => true
  | call :: others => catalogue.allows call && (catalogue.answer call).1.allowsAll others

end Catalogue

end LedgerService
