import LedgerService.Fees.Book
import LedgerService.Schema.Decode
import LedgerService.Schema.Encode
import LedgerService.Store.Access
import LedgerService.Time.Clock
import LedgerService.Traffic.Work

/-!
# Surroundings of the methods

What the methods of the service look at: the store, the fee book and the wall clock. The store can be made to
answer late, to fail, or to break down.
-/

namespace LedgerService

/-- A disturbance of one access to the store. -/
structure Stall where
  /-- How long the access takes, if it takes any time. -/
  delay : Option Duration
  /-- The text with which the access breaks down. -/
  breakdown : Option String
  /-- The text with which the store fails. -/
  failure : Option String
deriving DecidableEq, Repr, Inhabited

/-- No disturbance. -/
def Stall.none : Stall := ⟨Option.none, Option.none, Option.none⟩

/-- What the methods look at. -/
structure Surroundings (σ : Type) where
  store : σ
  book : FeeBook
  clock : ClockReading
  /-- The disturbances of the next accesses to the store. -/
  stalls : List Stall

namespace Surroundings

variable {σ : Type} [LedgerSource σ]

/-- The surroundings without the next disturbance. -/
def withoutStall (surroundings : Surroundings σ) : Surroundings σ :=
  { surroundings with stalls := surroundings.stalls.tail }

/-- The next disturbance. -/
def nextStall (surroundings : Surroundings σ) : Stall := surroundings.stalls.head?.getD .none

/-- Reads from the store and goes on with what it gives; a failure is the answer. -/
def read {α : Type} (query : σ → Except Failure α) (next : α → Work (Surroundings σ)) : Work (Surroundings σ) :=
  .consult withoutStall fun surroundings =>
    let stall := surroundings.nextStall
    .pauseFor stall.delay <|
      match stall.breakdown, stall.failure with
      | some text, _ => .done (.panicked (some text))
      | Option.none, some text => .reply (.error (.service (.database text)))
      | Option.none, Option.none =>
        .look fun surroundings =>
          match query surroundings.store with
          | .ok value => next value
          | .error failure => .reply (.error (.service failure))

/-- The answer of a service whose store is empty. -/
def uninitialized : RequestError := .service (.invalidState "data stores are not initialized")

/-- Goes on with what is there; if nothing is, the store is empty. -/
def present {α : Type} (next : α → Work (Surroundings σ)) : Option α → Work (Surroundings σ)
  | some value => next value
  | Option.none => .reply (.error uninitialized)

/-- Reads the stored range and goes on with it. -/
def readRange (next : SequenceRange → Work (Surroundings σ)) : Work (Surroundings σ) :=
  read LedgerSource.range (present next)

/-- Reads the header of the newest ledger and goes on with it. -/
def readLatest (next : LedgerSummary → Work (Surroundings σ)) : Work (Surroundings σ) :=
  read LedgerSource.latest (present next)

/-- Reads ledgers from a sequence on and goes on with them. -/
def readLedgers (start limit : UInt32) (next : List ClosedLedger → Work (Surroundings σ)) :
    Work (Surroundings σ) :=
  read (fun store => LedgerSource.ledgers store start limit) next

end Surroundings

/-- Work that answers with a value. -/
def Schema.respond {α σ : Type} (schema : Schema α) (value : α) : Work σ := .reply (.ok (schema.encode value))

/-- The parameters of a request; absent ones count as none given. -/
def Schema.params {α : Type} (schema : Schema α) (params : Json) : Except RequestError α :=
  let given :=
    match params with
    | .null => .object []
    | other => other
  match schema.decode given with
  | .ok value => .ok value
  | .error fault => .error (.invalidParams fault.message)

end LedgerService
