import LedgerService.Proofs.Ledger.Gaps
import LedgerService.Proofs.Rpc.Cursor
import LedgerService.Proofs.Settings.Soundness

/-!
# Pages of the usual size

A client that gives a stored start and no limit is answered with a page of the usual size, which is never checked as a
limit that the client gives would be. An accepted configuration bounds it from above, so the page is never longer than
the greatest one, but it may be zero. The page starts where the client asked for it, and moves on, just if the usual
size is positive (`usual_page_serves_iff`): otherwise it is empty, and its cursor leads back to before the start.
-/

namespace LedgerService

open ClosedLedger (since)

namespace ClosedLedger

variable {stored : List ClosedLedger}

/-- From any sequence in their range on, consecutive ledgers begin with that sequence. -/
theorem Consecutive.exists_since (consecutive : Consecutive stored) {range : SequenceRange}
    (ends : ends? stored = some range) {start : UInt32} (inside : range.first ≤ start) (reached : start ≤ range.last) :
    ∃ ledger others, since start stored = ledger :: others ∧ ledger.sequence = start := by
  rcases consecutive.gapFree range ends start inside reached with ⟨ledger, member, rfl⟩
  rcases List.append_of_mem member with ⟨front, others, rfl⟩
  exact ⟨ledger, others, consecutive.ascending.since_own, rfl⟩

end ClosedLedger

/-- A request without a limit asks for the usual number of ledgers. -/
theorem Paging.page_of_usual {request : LedgersRequest} {limits : PageLimits} {range : SequenceRange} {start : UInt32}
    (unlimited : request.requested = 0) (found : request.start request.cursor? range = .ok start) :
    request.page limits range = .ok ⟨start, limits.usual⟩ := by
  rw [LedgersRequest.page_eq_bind, unlimited, found]
  rfl

namespace PageBounds

variable {stored : List ClosedLedger}

/-- The page begins with its own start, and the cursor has moved on to it at least. -/
structure Serves (start : UInt32) (page : List ClosedLedger) (cursor : UInt32) : Prop where
  first : page.head?.map ClosedLedger.sequence = some start
  forward : start ≤ cursor

theorem not_serves_nil (start cursor : UInt32) : ¬Serves start [] cursor := fun serves => nomatch serves.first

theorem ledgers_of_limit_zero (bounds : PageBounds) (roomless : bounds.limit = 0) :
    bounds.ledgers stored = [] ∧ bounds.cursor (bounds.ledgers stored) = predecessor bounds.start := by
  have empty : bounds.ledgers stored = [] := by simp [ledgers, roomless]
  simp [empty, cursor_eq]

theorem serves_of_since (bounds : PageBounds) {ledger : ClosedLedger} {others : List ClosedLedger}
    (room : 0 < bounds.limit) (found : since bounds.start stored = ledger :: others)
    (own : ledger.sequence = bounds.start) :
    Serves bounds.start (bounds.ledgers stored) (bounds.cursor (bounds.ledgers stored)) := by
  have positive : 0 < bounds.limit.toNat := UInt32.lt_iff_toNat_lt.mp room
  constructor
  · rw [ledgers, found, List.head?_take, if_neg (Nat.ne_of_gt positive)]
    exact congrArg some own
  · rcases bounds.ledgers_cases stored positive with ⟨-, nothing⟩ | ⟨last, rest, -, -, named, -, after⟩
    · rw [found] at nothing
      cases nothing
    · rw [named]
      exact after

end PageBounds

/--
Under an accepted configuration, a client that gives a stored start, but no limit, is answered with the ledgers from
there on, up to the usual number and no more than the greatest. The page begins with the start and its cursor does not
lead back, just if the usual number is positive. If it is zero, the page is empty, and its cursor leads back.
-/
theorem usual_page_serves_iff {configuration : Configuration} (accepted : configuration.validate = .ok ())
    {surroundings : Surroundings LedgerSession} (smooth : surroundings.Smooth) {stored : List ClosedLedger}
    (stores : surroundings.store.table.Stores stored) (consecutive : ClosedLedger.Consecutive stored)
    {oldest newest : ClosedLedger} (first : stored.head? = some oldest) (last : stored.getLast? = some newest)
    {method : Method (Surroundings LedgerSession)} (offered : method ∈ configuration.service.methodList)
    (named : method.name = "getLedgers") {params : Json} {request : LedgersRequest}
    (asked : LedgersRequest.schema.params params = .ok request) (fresh : request.cursor? = none)
    (unlimited : request.requested = 0) (after : oldest.sequence ≤ request.startLedger)
    (before : request.startLedger ≤ newest.sequence) :
    ∃ page cursor,
      (method.handler params).settle surroundings =
        .answered (.ok (LedgersResponse.schema.encode (.ofPage oldest newest page cursor))) ∧
      (LedgersResponse.schema.encode (.ofPage oldest newest page cursor)).ShowsPage page cursor ∧
      page = (stored.filter fun ledger => request.startLedger ≤ ledger.sequence).take configuration.usualPage.toNat ∧
      page.length ≤ configuration.greatestPage.toNat ∧
      (PageBounds.Serves request.startLedger page cursor ↔ 0 < configuration.usualPage) ∧
      (configuration.usualPage = 0 → page = [] ∧ cursor = predecessor request.startLedger) := by
  have same := ServiceConfig.eq_of_name offered configuration.service.ledgers_mem_methodList named
  have chosen : request.page configuration.service.pages ⟨oldest.sequence, newest.sequence⟩ =
      .ok ⟨request.startLedger, configuration.usualPage⟩ := by
    apply Paging.page_of_usual unlimited
    simp [LedgersRequest.start, fresh, UInt32.not_lt.mpr after, UInt32.not_lt.mpr before]
  have ends : ClosedLedger.ends? stored = some ⟨oldest.sequence, newest.sequence⟩ := by
    rw [ClosedLedger.ends?, first, last]
  -- the request is given exactly these bounds, so all that is left is about them
  let bounds : PageBounds := ⟨request.startLedger, configuration.usualPage⟩
  rw [same]
  refine ⟨_, _, settle_answerLedgers smooth stores first last asked chosen, LedgersResponse.showsPage_ofPage .., rfl,
    ?_, ⟨?_, ?_⟩, ?_⟩
  · have bounded := UInt32.le_iff_toNat_le.mp (Configuration.validate_eq_ok_iff.mp accepted).1.pages
    exact Nat.le_trans (List.length_take_le _ _) bounded
  · intro serves
    apply UInt32.pos_iff_ne_zero.mpr
    intro none
    rw [(bounds.ledgers_of_limit_zero none).1] at serves
    exact PageBounds.not_serves_nil _ _ serves
  · intro room
    rcases consecutive.exists_since ends after before with ⟨ledger, others, found, own⟩
    exact bounds.serves_of_since room found own
  · exact fun none => bounds.ledgers_of_limit_zero none

theorem usual_page_serves_named :
    let method : Method (Surroundings LedgerSession) := ⟨"getLedgers", ⟨1000, .ofMillis 10000⟩, answerLedgers ⟨200, 50⟩⟩
    method ∈ Configuration.named.service.methodList ∧
    ∃ page cursor,
      (method.handler (Paging.opening 8 none)).settle threeQuiet.surroundings =
        .answered (.ok (LedgersResponse.schema.encode (.ofPage (.quiet 7) (.quiet 9) page cursor))) ∧
      (LedgersResponse.schema.encode (.ofPage (.quiet 7) (.quiet 9) page cursor)).ShowsPage page cursor ∧
      PageBounds.Serves 8 page cursor ∧ page = [.quiet 8, .quiet 9] := by
  intro method
  have accepted : Configuration.named.validate = .ok () := by rfl
  have consecutive : ClosedLedger.Consecutive threeQuiet.stored :=
    threeQuiet.stores.ascending.consecutive threeQuiet.chain
  have offered : method ∈ Configuration.named.service.methodList := Configuration.named.service.ledgers_mem_methodList
  have asked := Paging.params_opening 8 none
  have served := usual_page_serves_iff accepted threeQuiet.smooth threeQuiet.stores consecutive rfl rfl offered rfl
    asked rfl rfl (by decide) (by decide)
  rcases served with ⟨page, cursor, settled, shown, contents, -, serves, -⟩
  exact ⟨offered, page, cursor, settled, shown, serves.mpr (by decide), contents.trans rfl⟩

namespace Configuration

/-- A configuration whose usual page is empty. -/
def pageless : Configuration := { named with usualPage := 0 }

/-- Under an accepted configuration, a client that gives a stored start may be given no ledgers and be led back. -/
theorem usual_page_may_be_empty :
    let round : Round := .calm [7] none (by decide) (by simp)
    let method : Method (Surroundings LedgerSession) := ⟨"getLedgers", ⟨1000, .ofMillis 10000⟩, answerLedgers ⟨200, 0⟩⟩
    pageless.validate = .ok () ∧ method ∈ pageless.service.methodList ∧ round.stored = [.quiet 7] ∧
    LedgersRequest.schema.params (Paging.opening 7 none) = .ok ⟨7, none⟩ ∧
    (method.handler (Paging.opening 7 none)).settle round.surroundings =
      .answered (.ok (LedgersResponse.schema.encode (.ofPage (.quiet 7) (.quiet 7) [] 6))) ∧
    ¬PageBounds.Serves 7 [] 6 ∧ ¬(7 : UInt32) ≤ 6 := by
  intro round method
  have asked := Paging.params_opening 7 none
  have chosen : LedgersRequest.page ⟨7, none⟩ ⟨200, 0⟩ ⟨7, 7⟩ = .ok ⟨7, 0⟩ := rfl
  have first : round.stored.head? = some (.quiet 7) := rfl
  have last : round.stored.getLast? = some (.quiet 7) := rfl
  have settled := settle_answerLedgers round.smooth round.stores first last asked chosen
  exact ⟨rfl, pageless.service.ledgers_mem_methodList, rfl, asked, settled, PageBounds.not_serves_nil 7 6, by decide⟩

end Configuration

end LedgerService
