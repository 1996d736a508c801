import LedgerService.Rpc.Surroundings
import LedgerService.Rpc.Types
import LedgerService.Text.Numeral
import LedgerService.Text.Quoted

/-!
# Pages of ledgers

A request asks for ledgers from a sequence on, or for those that follow a cursor; the cursor of a page is the
sequence of its last ledger.
-/

namespace LedgerService

variable {σ : Type} [LedgerSource σ]

/-- Where a page starts and how many ledgers it may have. -/
structure PageBounds where
  start : UInt32
  limit : UInt32
deriving DecidableEq, Repr, Inhabited

/-- The greatest and the usual number of ledgers of a page. -/
structure PageLimits where
  greatest : UInt32
  usual : UInt32
deriving DecidableEq, Repr, Inhabited

/-- One more, but for the greatest number, which stays. -/
def successor (sequence : UInt32) : UInt32 := if sequence = 4294967295 then sequence else sequence + 1

/-- One less, but for zero, which stays. -/
def predecessor (sequence : UInt32) : UInt32 := if sequence = 0 then 0 else sequence - 1

/-- The number of ledgers that a request asks for; zero asks for the usual number. -/
def PageLimits.chosen (limits : PageLimits) (requested : UInt32) : Except RequestError UInt32 :=
  if requested = 0 then .ok limits.usual
  else if limits.greatest < requested then
    .error (.invalidParams ("limit must not exceed " ++ toString limits.greatest))
  else .ok requested

/-- The sequence that a cursor names. -/
def cursorSequence (cursor : String) : Except RequestError UInt32 :=
  match Text.numeral UInt32.size cursor with
  | .ok number => .ok (UInt32.ofNat number)
  | .error fault =>
    .error (.invalidParams ("invalid cursor " ++ Text.quoted cursor ++ ": " ++ fault.message))

/-- The complaint about a start outside the stored range. -/
def startOutside (range : SequenceRange) : RequestError :=
  .invalidParams ("start ledger must be between the oldest ledger: " ++ toString range.first ++
    " and the latest ledger: " ++ toString range.last ++ " for this rpc instance")

namespace LedgersRequest

/-- The first sequence that a request asks for. -/
def start (request : LedgersRequest) (cursor : Option String) (range : SequenceRange) :
    Except RequestError UInt32 :=
  match cursor with
  | some cursor =>
    if request.startLedger ≠ 0 then .error (.invalidParams "startLedger and cursor cannot both be set")
    else successor <$> cursorSequence cursor
  | none =>
    if request.startLedger < range.first || range.last < request.startLedger then .error (startOutside range)
    else .ok request.startLedger

/-- The bounds of the page that a request asks for. -/
def page (request : LedgersRequest) (limits : PageLimits) (range : SequenceRange) :
    Except RequestError PageBounds := do
  let pagination := request.pagination.getD ⟨none, 0⟩
  let limit ← limits.chosen pagination.limit
  let start ← request.start pagination.cursor range
  return ⟨start, limit⟩

end LedgersRequest

/-- The cursor of a page. -/
def PageBounds.cursor (bounds : PageBounds) (ledgers : List ClosedLedger) : UInt32 :=
  match ledgers.getLast? with
  | some ledger => ledger.sequence
  | none => predecessor bounds.start

/-- The page that a request asks for. -/
def answerLedgers (limits : PageLimits) : Handler (Surroundings σ) := fun params =>
  match LedgersRequest.schema.params params with
  | .error error => .reply (.error error)
  | .ok request =>
    Surroundings.readRange fun range =>
      match request.page limits range with
      | .error error => .reply (.error error)
      | .ok bounds =>
        Surroundings.readLedgers bounds.start bounds.limit fun ledgers =>
          Surroundings.readLatest fun latest =>
            Surroundings.readLedgers range.first 1 fun oldest =>
              LedgersResponse.schema.respond
                { ledgers := ledgers.map ClosedLedger.entry
                  latestLedger := latest.sequence
                  latestCloseTime := latest.closeTime
                  oldestLedger := range.first
                  oldestCloseTime := (oldest.head?.map ClosedLedger.closeTime).getD 0
                  cursor := toString (bounds.cursor ledgers) }

end LedgerService
