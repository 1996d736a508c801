import LedgerService.Proofs.Ingestion.Workplace
import LedgerService.Proofs.Ledger.Span
import LedgerService.Proofs.Rpc.Cursor

/-!
# Coherent pages

A page of ledgers is put together from four readings of the store, and ledgers may be committed between any two of them
(`readings_of_answerLedgers`). As long as each of them is the next one, every reading finds all that the readings before
it have found and maybe more behind it, so the parts of the page agree with one another: what is read as the newest
ledger is read after the page, and the oldest ledger stays where it is (`coherent_of_readings`).
-/

namespace LedgerService

open ClosedLedger (since ends? Ascending Consecutive)

/-- The parts of a response agree with one another and with the stored ledgers. -/
structure LedgersResponse.Coherent (response : LedgersResponse) (stored : List ClosedLedger) : Prop where
  entries : ∀ entry ∈ response.ledgers, ∃ ledger ∈ stored, entry = ledger.entry
  consecutive : response.ledgers.IsChain fun earlier later => later.sequence.toNat = earlier.sequence.toNat + 1
  inside : ∀ entry ∈ response.ledgers, response.oldestLedger ≤ entry.sequence ∧ entry.sequence ≤ response.latestLedger
  oldest : ∃ ledger ∈ stored, ledger.sequence = response.oldestLedger ∧ ledger.closeTime = response.oldestCloseTime
  latest : ∃ ledger ∈ stored, ledger.sequence = response.latestLedger ∧ ledger.closeTime = response.latestCloseTime
  cursor : response.ledgers ≠ [] → ∃ cursor, response.cursor = toString cursor ∧ cursor ≤ response.latestLedger

theorem onlyReads_answerLedgers {σ : Type} [LedgerSource σ] (limits : PageLimits) (params : Json) :
    (answerLedgers limits params : Work (Surroundings σ)).OnlyReads := by
  rw [answerLedgers]
  split
  case h_1 => trivial
  case h_2 request _ =>
    apply Work.onlyReads_read
    apply Work.onlyReads_present
    intro range
    split
    case h_1 => trivial
    case h_2 =>
      refine Work.onlyReads_read _ fun ledgers => Work.onlyReads_read _ (Work.onlyReads_present ?_)
      exact fun latest => Work.onlyReads_read _ fun oldest => trivial

/-- A page that is answered has been read at four moments, one after the other. -/
theorem readings_of_answerLedgers {μ : Type} {shown : μ → Surroundings (Rehearsal LedgerSession)} {moments : List μ}
    {limits : PageLimits} {params json : Json}
    (ended : (answerLedgers limits params).after shown moments = .done (.answered (.ok json))) :
    ∃ request range bounds page newest earliest, ∃ first second third fourth,
      LedgersRequest.schema.params params = .ok request ∧ request.page limits range = .ok bounds ∧
      [first, second, third, fourth].Sublist moments ∧
      LedgerSource.range (shown first).store = .ok (some range) ∧
      LedgerSource.ledgers (shown second).store bounds.start bounds.limit = .ok page ∧
      LedgerSource.latest (shown third).store = .ok (some newest) ∧
      LedgerSource.ledgers (shown fourth).store range.first 1 = .ok earliest ∧
      json = LedgersResponse.schema.encode
        { ledgers := page.map ClosedLedger.entry
          latestLedger := newest.sequence
          latestCloseTime := newest.closeTime
          oldestLedger := range.first
          oldestCloseTime := (earliest.head?.map ClosedLedger.closeTime).getD 0
          cursor := toString (bounds.cursor page) } := by
  rw [answerLedgers] at ended
  split at ended
  case h_1 => cases Work.of_reply ended
  case h_2 request asked =>
    rcases Work.of_readRange ended with ⟨first, afterFirst, range, before, ranged, chosen⟩
    split at chosen
    case h_1 => cases Work.of_reply chosen
    case h_2 bounds found =>
      rcases Work.of_readLedgers chosen with ⟨second, afterSecond, page, later, paged, dating⟩
      rcases Work.of_readLatest dating with ⟨third, afterThird, newest, stillLater, dated, opening⟩
      rcases Work.of_readLedgers opening with ⟨fourth, rest, earliest, latest, opened, responding⟩
      have ordered : [first, second, third, fourth].Sublist moments := by
        have last : [fourth].Sublist afterThird := (List.nil_sublist rest).cons_cons fourth |>.trans latest.sublist
        have inner : [third, fourth].Sublist afterSecond := (last.cons_cons third).trans stillLater.sublist
        have outer : [second, third, fourth].Sublist afterFirst := (inner.cons_cons second).trans later.sublist
        exact (outer.cons_cons first).trans before.sublist
      exact ⟨request, range, bounds, page, newest, earliest, first, second, third, fourth, asked, found, ordered,
        ranged, paged, dated, opened, Work.of_respond responding⟩

/-- What is read of a growing store at four moments, one after the other, makes a coherent page. -/
theorem coherent_of_readings {first second third fourth stored : List ClosedLedger} (consecutive : Consecutive stored)
    (secondGrows : first <+: second) (thirdGrows : second <+: third) (fourthGrows : third <+: fourth)
    (stays : fourth <+: stored) {range : SequenceRange} (ranged : ends? first = some range) (bounds : PageBounds)
    {newest : ClosedLedger} (dated : third.getLast? = some newest) :
    LedgersResponse.Coherent
      { ledgers := (bounds.ledgers second).map ClosedLedger.entry
        latestLedger := newest.sequence
        latestCloseTime := newest.closeTime
        oldestLedger := range.first
        oldestCloseTime := (((since range.first fourth).take 1).head?.map ClosedLedger.closeTime).getD 0
        cursor := toString (bounds.cursor (bounds.ledgers second)) }
      stored := by
  have ascending {part : List ClosedLedger} (inside : part <+: stored) : Ascending part :=
    consecutive.ascending.sublist inside.sublist
  have thirdStays := fourthGrows.trans stays
  have secondStays := thirdGrows.trans thirdStays
  rcases ClosedLedger.ends_eq_some ranged with ⟨oldest, last, head, -, rfl⟩
  have headed {later : List ClosedLedger} (grows : first <+: later) : later.head? = some oldest := by
    rcases grows with ⟨added, rfl⟩
    rw [List.head?_append, head, Option.some_or]
  have whole := ClosedLedger.Ascending.since_of_head (ascending secondStays) (headed secondGrows)
  have earliest := headed ((secondGrows.trans thirdGrows).trans fourthGrows)
  have page : bounds.ledgers second <:+: second := by
    have front : bounds.ledgers second <+: since bounds.start second := List.take_prefix _ _
    exact front.isInfix.trans (ClosedLedger.Ascending.since_suffix (ascending secondStays) bounds.start).isInfix
  have latest : ∀ ledger ∈ bounds.ledgers second, ledger.sequence ≤ newest.sequence :=
    fun ledger member =>
      ClosedLedger.Ascending.le_last (ascending thirdStays) dated ledger (thirdGrows.subset (page.subset member))
  refine ⟨?_, ?_, ?_, ?_, ?_, ?_⟩
  · intro entry member
    rcases List.mem_map.mp member with ⟨ledger, inside, rfl⟩
    exact ⟨ledger, secondStays.subset (page.subset inside), rfl⟩
  · have chain : (bounds.ledgers second).IsChain ClosedLedger.Precedes :=
      consecutive.chain.infix (page.trans secondStays.isInfix)
    have ordered : Ascending (bounds.ledgers second) := (ascending secondStays).sublist page.sublist
    exact (List.isChain_map ClosedLedger.entry).mpr (ordered.chain_iff.mpr chain)
  · intro entry member
    rcases List.mem_map.mp member with ⟨ledger, inside, rfl⟩
    have own := page.subset inside
    rw [← whole] at own
    exact ⟨(ClosedLedger.since_mem.mp own).2, latest ledger inside⟩
  · refine ⟨oldest, stays.subset (List.mem_of_head? earliest), rfl, ?_⟩
    rw [ClosedLedger.Ascending.since_of_head (ascending stays) earliest, List.head?_take, if_neg (by decide), earliest]
    rfl
  · exact ⟨newest, thirdStays.subset (List.mem_of_getLast? dated), rfl, rfl⟩
  · intro nonempty
    refine ⟨_, rfl, ?_⟩
    cases final : (bounds.ledgers second).getLast? with
    | none =>
        rw [List.getLast?_eq_none_iff.mp final] at nonempty
        exact absurd rfl nonempty
    | some ledger =>
        rw [PageBounds.cursor, final]
        exact latest ledger (List.mem_of_getLast? final)

/-- Where the stored ledgers are consecutive, the table gives them in their order. -/
theorem Workplace.Stocked.stores {workplace final : Workplace} (stocked : workplace.Stocked)
    (grows : workplace.Grows final) (consecutive : Consecutive final.stored) :
    workplace.surroundings.store.store.table.Stores workplace.stored :=
  stocked.ordered.stores_of_ascending stocked.rows (consecutive.ascending.sublist grows.stored.sublist)

/--
A request for a page, at work with others that only read, as it does itself, while ledgers are ingested. However its
steps and those of the ingestion follow one another, and whatever operations of the store fail: as long as the ledgers
committed are each the next one, the page that is answered is no longer than asked for and agrees with itself and with
what is stored.
-/
theorem Workplace.coherent_while_ingesting {start final : Workplace} (stocked : start.Stocked)
    (idle : start.requests = []) {happenings : List Happening}
    (reads : ∀ happening ∈ happenings, happening.OnlyReads) (run : start.run? happenings = some final)
    (consecutive : Consecutive final.stored) {limits : PageLimits} {params json : Json} {request : Request}
    (member : request ∈ final.requests) (asked : request.asked = answerLedgers limits params)
    (answered : request.answer? = some json) :
    ∃ wanted response, LedgersRequest.schema.params params = .ok wanted ∧
      json = LedgersResponse.schema.encode response ∧ response.ledgers.length ≤ wanted.size limits ∧
      response.Coherent final.stored := by
  rcases (moments_of_answer idle run member).2 json answered with ⟨moments, ordered, ended⟩
  rw [asked] at ended
  rcases readings_of_answerLedgers ended with
    ⟨wanted, range, bounds, page, newest, earliest, first, second, third, fourth, parsed, chosen, among, ranged, paged,
      dated, opened, rfl⟩
  have inOrder := (grows_views run).sublist (among.trans ordered)
  simp only [List.pairwise_cons, List.forall_mem_cons] at inOrder
  rcases inOrder with ⟨⟨secondGrows, -⟩, ⟨thirdGrows, -⟩, ⟨fourthGrows, -⟩, -⟩
  have stores : ∀ moment ∈ [first, second, third, fourth],
      moment.surroundings.store.store.table.Stores moment.stored ∧ moment.Grows final := by
    intro moment present
    rcases stocked.moment reads run ((among.trans ordered).subset present) with ⟨kept, grows⟩
    exact ⟨kept.stores grows consecutive, grows⟩
  simp only [List.forall_mem_cons] at stores
  rcases stores with ⟨⟨inFirst, -⟩, ⟨inSecond, -⟩, ⟨inThird, -⟩, ⟨inFourth, stays⟩, -⟩
  have ends := Except.ok.inj (inFirst.range.symm.trans ranged)
  cases Except.ok.inj ((inSecond.ledgers_eq bounds.start bounds.limit).symm.trans paged)
  cases Except.ok.inj ((inFourth.ledgers_eq range.first 1).symm.trans opened)
  rcases Option.map_eq_some_iff.mp (Except.ok.inj (inThird.latest.symm.trans dated)) with ⟨latest, last, rfl⟩
  refine ⟨wanted, _, parsed, rfl, ?_, coherent_of_readings consecutive secondGrows.stored thirdGrows.stored
    fourthGrows.stored stays.stored ends bounds last⟩
  rcases wanted.page_cases limits range with ⟨-, text, refused⟩ | ⟨-, others, found, size, -⟩
  · rw [refused] at chosen
    cases chosen
  · rw [found] at chosen
    cases chosen
    rw [List.length_map, ← size]
    exact List.length_take_le _ _

/-- A page from ledger 7 on, while ledger 9 is committed between the second and the third reading. -/
def busyPage : List Happening :=
  [.ask (answerLedgers ⟨5, 3⟩ (Paging.opening 7 none))] ++ List.replicate 4 (.advance 0) ++ [.offer (.quiet 9)] ++
    List.replicate 4 (.ingest .none) ++ List.replicate 4 (.advance 0)

/-- A store with the quiet ledgers 7 and 8. -/
def quietWorkplace : Workplace where
  surroundings :=
    { store := .start (.on ⟨[(ClosedLedger.quiet 7).row, (ClosedLedger.quiet 8).row], true⟩)
      book := (FeeBook.empty 2 2 "network").toOption.get rfl
      clock := default
      stalls := [] }
  ingestion := none
  requests := []
  stored := [.quiet 7, .quiet 8]
  entered := []

theorem Workplace.coherent_busyPage :
    ∃ final request wanted response, quietWorkplace.run? busyPage = some final ∧ request ∈ final.requests ∧
      request.answer? = some (LedgersResponse.schema.encode response) ∧
      request.read? LedgersResponse.schema = some response ∧
      LedgersRequest.schema.params (Paging.opening 7 none) = .ok wanted ∧
      response.ledgers.length ≤ wanted.size ⟨5, 3⟩ ∧ response.Coherent [.quiet 7, .quiet 8, .quiet 9] ∧
      response.ledgers.map LedgerEntry.sequence = [7, 8] ∧ response.cursor = "8" ∧
      response.oldestLedger = 7 ∧ response.latestLedger = 9 := by
  have stocked : quietWorkplace.Stocked := by
    refine ⟨LedgerSession.ordered_on rfl ?_, .refl _, nofun, nofun⟩
    unfold LedgerTable.Ascending
    decide
  have reads : ∀ happening ∈ busyPage, happening.OnlyReads := by
    simp [busyPage, Happening.OnlyReads, onlyReads_answerLedgers]
  have outcome : ((quietWorkplace.run? busyPage).map fun final =>
      (final.stored, final.requests.map (Request.read? LedgersResponse.schema))) =
        some ([.quiet 7, .quiet 8, .quiet 9], [some (.ofPage (.quiet 7) (.quiet 9) [.quiet 7, .quiet 8] 8)]) := by
    decide +kernel
  rcases Option.map_eq_some_iff.mp outcome with ⟨final, run, reached⟩
  rcases Prod.mk.inj reached with ⟨stored, answers⟩
  rcases List.map_eq_singleton_iff.mp answers with ⟨request, only, shown⟩
  rcases Option.bind_eq_some_iff.mp shown with ⟨json, answered, -⟩
  have member : request ∈ final.requests := by simp [only]
  have asked : request.asked = answerLedgers ⟨5, 3⟩ (Paging.opening 7 none) := by
    simpa [busyPage] using (moments_of_answer rfl run member).1
  have consecutive : Consecutive final.stored := by
    rw [stored]
    exact ⟨by simp [ClosedLedger.Precedes, ClosedLedger.quiet], by decide⟩
  rcases coherent_while_ingesting stocked rfl reads run consecutive member asked answered with
    ⟨wanted, response, parsed, rfl, short, coherent⟩
  rw [stored] at coherent
  cases Option.some.inj ((Request.read?_eq LedgersResponse.lossless_schema answered).symm.trans shown)
  exact ⟨final, request, wanted, _, run, member, answered, shown, parsed, short, coherent, rfl, rfl, rfl, rfl⟩

end LedgerService
