import LedgerService.Proofs.Fees.History
import LedgerService.Proofs.Fees.Percentiles
import LedgerService.Proofs.Ingestion.Tail
import LedgerService.Proofs.Ingestion.Workplace
import LedgerService.Proofs.Ledger.Lossless
import LedgerService.Rpc.Information

/-!
# Fee reports

The answer about fees names the newest stored ledger, which is read first, and the statistics of both windows, which are
taken later. A ledger is entered into the windows before it is committed, and stays there if the commit fails, so at any
moment the windows have seen every stored ledger or a later one (`Workplace.Abreast`). They have seen no less by the
time when the statistics are taken, so these include the ledger that the answer names
(`Workplace.feeStats_never_behind`). A client reads the figures themselves and the number of ledgers behind them
(`StatisticsResponse.Shows`).
-/

namespace LedgerService

open ClosedLedger (Ascending Consecutive)

/-- A response names the figures of some statistics in decimal, and their number of ledgers. -/
structure StatisticsResponse.Shows (response : StatisticsResponse) (statistics : FeeStatistics) : Prop where
  minimum : response.minimum = toString statistics.minimum
  maximum : response.maximum = toString statistics.maximum
  mode : response.mode = toString statistics.mode
  percentiles :
    [response.p10, response.p20, response.p30, response.p40, response.p50, response.p60, response.p70, response.p80,
      response.p90, response.p95, response.p99] = statistics.percentiles.map fun reported => toString reported.2
  transactions : response.transactions = toString statistics.transactions
  ledgers : response.ledgers = statistics.ledgers

theorem FeeStatistics.shown_response (statistics : FeeStatistics) : statistics.response.Shows statistics :=
  ⟨rfl, rfl, rfl, rfl, rfl, rfl⟩

/-- A report shows the statistics of both windows of a fee book, and names a ledger. -/
structure FeeStatsResponse.Shows (response : FeeStatsResponse) (book : FeeBook) (latest : UInt32) : Prop where
  classic : response.classic.Shows book.classic.statistics
  contract : response.contract.Shows book.contract.statistics
  latest : response.latestLedger = latest

theorem FeeStatsResponse.exists_shows (book : FeeBook) (latest : UInt32) :
    ∃ response, schema.decode (schema.encode ⟨book.contract.statistics.response, book.classic.statistics.response,
      latest⟩) = .ok response ∧ response.Shows book latest :=
  ⟨_, Schema.decode_encode lossless_schema _, FeeStatistics.shown_response _,
    FeeStatistics.shown_response _, rfl⟩

/-- How many ledgers the two distributions of a report count, and the ledger that it names. -/
structure Json.CountsLedgers (json : Json) (classic contract latest : UInt32) : Prop where
  classic : (json.member? "inclusionFee").bind (member? "ledgerCount") = some (.integer classic.toNat)
  contract : (json.member? "sorobanInclusionFee").bind (member? "ledgerCount") = some (.integer contract.toNat)
  latest : json.member? "latestLedger" = some (.integer latest.toNat)

theorem FeeStatsResponse.countsLedgers_encode (response : FeeStatsResponse) :
    (schema.encode response).CountsLedgers response.classic.ledgers response.contract.ledgers response.latestLedger :=
  ⟨rfl, rfl, rfl⟩

namespace Workplace

/-- How a run begins: with an empty store and a new fee book, or right after a replay that succeeded. -/
inductive Begins (classic contract : UInt32) (passphrase : String) : Workplace → Prop where
  | empty {surroundings : Surroundings (Rehearsal LedgerSession)}
      (created : FeeBook.empty classic contract passphrase = .ok surroundings.book)
      (ordered : surroundings.store.store.Ordered) (blank : surroundings.store.store.table.rows = []) :
      Begins classic contract passphrase ⟨surroundings, none, [], [], []⟩
  | replayed {surroundings : Surroundings (Rehearsal LedgerSession)} {store : Rehearsal LedgerSession} {fresh : FeeBook}
      {stored : List ClosedLedger} {size retention count : UInt32}
      (created : FeeBook.empty classic contract passphrase = .ok fresh) (ordered : store.store.Ordered)
      (stores : store.store.table.Stores stored) (sized : 0 < size) (positive : 0 < retention)
      (done : Replay.runBy size retention store fresh = (surroundings.store, surroundings.book, .ok count)) :
      Begins classic contract passphrase ⟨surroundings, none, [], stored, Replay.recent retention stored⟩

/-- The fee book covers what was entered, and for every stored ledger that is this ledger or a later one. -/
structure Abreast (workplace : Workplace) (classic contract : Nat) (passphrase : String) : Prop
    extends workplace.Stocked where
  covers : workplace.surroundings.book.Covers classic contract passphrase workplace.entered
  known : ∀ ledger ∈ workplace.stored, ∃ other ∈ workplace.entered, ledger.sequence ≤ other.sequence
  accepted : ∀ ledger, workplace.ingestion = some (ledger, .committing) → ledger ∈ workplace.entered

theorem Begins.abreast {classic contract : UInt32} {passphrase : String} {workplace : Workplace}
    (begins : workplace.Begins classic contract passphrase) :
    workplace.Abreast classic.toNat contract.toNat passphrase := by
  cases begins with
  | empty created ordered blank =>
      exact ⟨⟨ordered, .of_eq blank, nofun, nofun⟩, FeeBook.covers_of_empty created, nofun, nofun⟩
  | @replayed surroundings store fresh stored size retention count created ordered stores sized positive done =>
      rcases Replay.appendAll_of_runBy ordered stores sized done with ⟨replayed, same, still⟩
      have rows : surroundings.store.store.table.rows = stored.map ClosedLedger.row := by
        rw [same]
        exact stores.rows
      refine ⟨⟨still, .of_eq rows, nofun, nofun⟩, ?_, ?_, nofun⟩
      · rcases (FeeBook.covers_of_empty created).appendAll_cases (Replay.recent retention stored) with
          ⟨larger, entered, covers⟩ | ⟨_, _, _, _, _, -, -, -, -, refused⟩
        · rw [replayed] at entered
          cases entered
          exact covers
        · rw [replayed] at refused
          cases refused
      · intro ledger member
        cases last : stored.getLast? with
        | none =>
            rw [List.getLast?_eq_none_iff.mp last] at member
            cases member
        | some newest =>
            exact ⟨newest, Replay.newest_mem_recent stores.ascending positive last,
              stores.ascending.le_last last ledger member⟩

theorem Begins.positive {classic contract : UInt32} {passphrase : String} {workplace : Workplace}
    (begins : workplace.Begins classic contract passphrase) : 0 < classic ∧ 0 < contract := by
  cases begins with
  | empty created _ _ => exact FeeBook.positive_of_empty created
  | replayed created _ _ _ _ _ => exact FeeBook.positive_of_empty created

namespace Abreast

variable {workplace next final : Workplace} {classic contract : Nat} {passphrase : String}

theorem ingested (abreast : workplace.Abreast classic contract passphrase) {ledger : ClosedLedger}
    {stage : IngestStage} (under : workplace.ingestion = some (ledger, stage)) (faults : Faults) :
    (workplace.ingested ledger stage faults).Abreast classic contract passphrase := by
  have stocked := abreast.toStocked.ingested under faults
  have passes := passes_ingested (abreast.prepared ledger stage under) faults
  generalize workplace.ingested ledger stage faults = next at stocked passes ⊢
  cases passes with
  | quiet _ stored entered book onward =>
      refine ⟨stocked, ?_, ?_, fun other found => absurd found onward.not_committing⟩
      · rw [book, entered]
        exact abreast.covers
      · rw [stored, entered]
        exact abreast.known
  | refused _ stored entered failure book onward =>
      refine ⟨stocked, ?_, ?_, fun other found => absurd found onward.not_committing⟩
      · rw [abreast.covers.of_append_error book, entered]
        exact abreast.covers
      · rw [stored, entered]
        exact abreast.known
  | accepted _ stored entered book onward _ =>
      refine ⟨stocked, ?_, ?_, ?_⟩
      · rw [entered]
        exact abreast.covers.of_append_ok book
      · intro other member
        rw [stored] at member
        rcases abreast.known other member with ⟨later, inside, before⟩
        rw [entered]
        exact ⟨later, List.mem_append_left _ inside, before⟩
      · intro other found
        rw [onward] at found
        cases found
        rw [entered]
        exact List.mem_append_right _ (List.mem_singleton_self _)
  | committed due _ stored entered book idle =>
      refine ⟨stocked, ?_, ?_, ?_⟩
      · rw [book, entered]
        exact abreast.covers
      · intro other member
        rw [stored] at member
        rw [entered]
        rcases List.mem_append.mp member with old | new
        · exact abreast.known other old
        · rw [List.mem_singleton.mp new]
          rw [due] at under
          exact ⟨ledger, abreast.accepted ledger under, UInt32.le_refl _⟩
      · intro other found
        rw [idle] at found
        cases found

theorem step (abreast : workplace.Abreast classic contract passphrase) {happening : Happening}
    (reads : happening.OnlyReads) (stepped : workplace.step? happening = some next) :
    next.Abreast classic contract passphrase := by
  have stocked := abreast.toStocked.step reads stepped
  cases follows_step stepped with
  | ingested ledger stage faults under result =>
      rw [result]
      exact abreast.ingested under faults
  | beside stored entered ingestion surroundings =>
      refine ⟨stocked, ?_, ?_, ?_⟩
      · rw [(abreast.untouched surroundings).2, entered]
        exact abreast.covers
      · rw [stored, entered]
        exact abreast.known
      · intro ledger found
        rw [entered]
        rcases ingestion with same | ⟨other, fresh⟩
        · exact abreast.accepted ledger (same.symm.trans found)
        · rw [fresh] at found
          cases found

theorem run (abreast : workplace.Abreast classic contract passphrase) {happenings : List Happening}
    (reads : ∀ happening ∈ happenings, happening.OnlyReads) (run : workplace.run? happenings = some final) :
    final.Abreast classic contract passphrase := by
  apply run_keeps _ abreast run
  intro happening known earlier later stepped holds
  exact holds.step (reads happening known) stepped

theorem moment (abreast : workplace.Abreast classic contract passphrase) {happenings : List Happening}
    (reads : ∀ happening ∈ happenings, happening.OnlyReads) (run : workplace.run? happenings = some final)
    {moment : Workplace} (member : moment ∈ workplace.views happenings) :
    moment.Abreast classic contract passphrase ∧ moment.Grows final := by
  apply views_keep _ abreast run member
  intro happening known earlier later stepped holds
  exact holds.step (reads happening known) stepped

/-- What is read as the newest stored ledger has been entered, or a later one has. -/
theorem entered_of_range (abreast : workplace.Abreast classic contract passphrase) {range : SequenceRange}
    (ranged : LedgerSource.range workplace.surroundings.store = .ok (some range)) :
    ∃ other ∈ workplace.entered, range.last ≤ other.sequence := by
  rcases abreast.ordered.stores abreast.rows with ⟨inOrder, rearranged, stores⟩
  have ends := Except.ok.inj (stores.range.symm.trans ranged)
  rcases ClosedLedger.ends_eq_some ends with ⟨first, last, -, newest, rfl⟩
  exact abreast.known last (rearranged.subset (List.mem_of_getLast? newest))

/-- Both windows have the newest of the ledgers entered, and count it. -/
theorem latest_of_entered (abreast : workplace.Abreast classic contract passphrase)
    (ascending : Ascending workplace.entered) {other : ClosedLedger} (member : other ∈ workplace.entered) :
    ∃ newest, workplace.surroundings.book.classic.latest? = some newest ∧
      workplace.surroundings.book.contract.latest? = some newest ∧ other.sequence ≤ newest := by
  cases last : workplace.entered.getLast? with
  | none =>
      rw [List.getLast?_eq_none_iff.mp last] at member
      cases member
  | some newest =>
      have latest : workplace.surroundings.book.classic.latest? = some newest.sequence := by
        rw [abreast.covers.classic_latest?, last]
        rfl
      exact ⟨newest.sequence, latest, abreast.covers.latest?_eq.symm.trans latest, ascending.le_last last other member⟩

end Abreast

end Workplace

/-- A window for any ledgers that retains the last of some ledgers counts at least one. -/
theorem FeeWindow.RetainsLast.counts {window : FeeWindow} {retention : UInt32} {series : LedgerFees → List UInt64}
    {passphrase : String} {ledgers : List ClosedLedger}
    (retains : window.RetainsLast retention.toNat series passphrase ledgers) (positive : 0 < retention)
    (nonempty : ledgers ≠ []) : 0 < window.statistics.ledgers := by
  have some := List.length_pos_iff.mpr nonempty
  have room := UInt32.lt_iff_toNat_lt.mp positive
  have bound := retention.toNat_lt
  rw [retains.2, FeeStatistics.ledgers_ofFees, UInt32.lt_iff_toNat_lt, UInt32.toNat_ofNat_of_lt']
  · rw [UInt32.toNat_zero] at room ⊢
    omega
  · change _ < 2 ^ 32
    omega

theorem onlyReads_answerFeeStats {σ : Type} [LedgerSource σ] (params : Json) :
    (answerFeeStats params : Work (Surroundings σ)).OnlyReads := by
  apply Work.onlyReads_read
  apply Work.onlyReads_present
  intro range
  exact ⟨fun _ => ⟨rfl, rfl⟩, fun _ => trivial⟩

/--
Requests for fee statistics, at work with others that only read, as they do themselves, while ledgers are ingested.
However their steps and those of the ingestion follow one another, and whatever operations of the store fail: a report
gives the statistics that both windows had at one moment of the run. They had the same newest ledger then, the ledger
that the report names is no later, and both windows counted at least one ledger. The client reads from it these figures,
this ledger and these counts.
-/
theorem Workplace.feeStats_never_behind {classic contract : UInt32} {passphrase : String} {start final : Workplace}
    (begins : start.Begins classic contract passphrase) {happenings : List Happening}
    (reads : ∀ happening ∈ happenings, happening.OnlyReads) (run : start.run? happenings = some final)
    (unwrapped : ∀ ledger ∈ final.entered.dropLast, ledger.sequence ≠ 4294967295) {params json : Json}
    {request : Request} (member : request ∈ final.requests) (asked : request.asked = answerFeeStats params)
    (answered : request.answer? = some json) :
    ∃ before after moment latest newest, happenings = before ++ after ∧ start.run? before = some moment ∧
      let book := moment.surroundings.book
      json =
          FeeStatsResponse.schema.encode
            ⟨book.contract.statistics.response, book.classic.statistics.response, latest⟩ ∧
        book.classic.latest? = some newest ∧ book.contract.latest? = some newest ∧ latest ≤ newest ∧
        0 < book.classic.statistics.ledgers ∧ 0 < book.contract.statistics.ledgers ∧
        ∃ response, FeeStatsResponse.schema.decode json = .ok response ∧ response.Shows book latest ∧
          json.CountsLedgers response.classic.ledgers response.contract.ledgers latest ∧
          0 < response.classic.ledgers ∧ 0 < response.contract.ledgers := by
  have abreast := begins.abreast
  have idle : start.requests = [] := by
    cases begins <;> rfl
  rcases (moments_of_answer idle run member).2 json answered with ⟨moments, ordered, ended⟩
  rw [asked, answerFeeStats] at ended
  rcases Work.of_readRange ended with ⟨earlier, later, range, found, ranged, looking⟩
  rcases Work.of_consult looking with ⟨moment, rest, rfl, responding⟩
  have among : [earlier, moment].Sublist (start.views happenings) :=
    (((List.nil_sublist rest).cons_cons moment).cons_cons earlier).trans (found.sublist.trans ordered)
  have grows : earlier.Grows moment := List.pairwise_pair.mp ((grows_views run).sublist among)
  have consecutive : Consecutive final.entered := ⟨(abreast.run reads run).covers.consecutive, unwrapped⟩
  rcases (abreast.moment reads run (among.subset List.mem_cons_self)).1.entered_of_range ranged with
    ⟨other, known, named⟩
  have view : moment ∈ start.views happenings := among.subset (by simp)
  rcases abreast.moment reads run view with ⟨present, stays⟩
  have ascending : Ascending moment.entered := consecutive.ascending.sublist stays.entered.sublist
  have entered := grows.entered.subset known
  rcases present.latest_of_entered ascending entered with ⟨newest, classicLatest, contractLatest, least⟩
  rcases begins.positive with ⟨classicPositive, contractPositive⟩
  rcases reached_of_mem_views run view with ⟨before, after, parts, reached, -⟩
  have classicCounts := present.covers.classic.retainsLast.counts classicPositive (List.ne_nil_of_mem entered)
  have contractCounts := present.covers.contract.retainsLast.counts contractPositive (List.ne_nil_of_mem entered)
  rcases FeeStatsResponse.exists_shows moment.surroundings.book range.last with ⟨response, read, shows⟩
  have reported := Work.of_respond responding
  have counts : json.CountsLedgers response.classic.ledgers response.contract.ledgers range.last := by
    rw [reported, shows.classic.ledgers, shows.contract.ledgers]
    exact FeeStatsResponse.countsLedgers_encode _
  rw [← reported] at read
  refine ⟨before, after, moment, range.last, newest, parts, reached, reported, classicLatest, contractLatest,
    UInt32.le_trans named least, classicCounts, contractCounts, response, read, shows, counts, ?_, ?_⟩
  · rw [shows.classic.ledgers]
    exact classicCounts
  · rw [shows.contract.ledgers]
    exact contractCounts

open Intake (payments)

/-- A report for which ledger 7 is read as the newest one, while ledger 8 has been entered and cannot be committed. -/
def busyReport : List Happening :=
  [.offer (payments 7 [100])] ++ List.replicate 4 (.ingest .none) ++
    [.ask (answerFeeStats .null), .offer (payments 8 [200])] ++ List.replicate 2 (.advance 0) ++
    List.replicate 3 (.ingest .none) ++ [.advance 0, .ingest { Faults.none with commit := some "disk full" }]

/-- An empty store and a new fee book. -/
def emptyWorkplace : Workplace where
  surroundings :=
    { store := Intake.emptyTable
      book := (FeeBook.empty 2 1 "network").toOption.get rfl
      clock := default
      stalls := [] }
  ingestion := none
  requests := []
  stored := []
  entered := []

/-- The report on a run: the classic window has both ledgers, the contract window the newer one only. -/
def busyFees : FeeStatsResponse where
  contract := ⟨"0", "0", "0", "0", "0", "0", "0", "0", "0", "0", "0", "0", "0", "0", "0", 1⟩
  classic :=
    ⟨"200", "100", "100", "100", "100", "100", "100", "100", "200", "200", "200", "200", "200", "200", "2", 2⟩
  latestLedger := 7

theorem Workplace.feeStats_busyReport :
    ∃ final request json, ∃ book : FeeBook, ∃ newest, emptyWorkplace.run? busyReport = some final ∧
      request ∈ final.requests ∧ request.answer? = some json ∧
      json = FeeStatsResponse.schema.encode
        ⟨book.contract.statistics.response, book.classic.statistics.response, 7⟩ ∧
      book.classic.latest? = some newest ∧ book.contract.latest? = some newest ∧ 7 ≤ newest ∧
      request.read? FeeStatsResponse.schema = some busyFees ∧ busyFees.Shows book 7 ∧ json.CountsLedgers 2 1 7 := by
  have begins : emptyWorkplace.Begins 2 1 "network" := .empty rfl (LedgerSession.ordered_on rfl .nil) rfl
  have reads : ∀ happening ∈ busyReport, happening.OnlyReads := by
    simp [busyReport, Happening.OnlyReads, onlyReads_answerFeeStats]
  have outcome : ((emptyWorkplace.run? busyReport).map fun final =>
      (final.entered, final.requests.map Request.answer?)) =
        some ([payments 7 [100], payments 8 [200]], [some (FeeStatsResponse.schema.encode
          ⟨(FeeStatistics.ofFees [] 1).response, (FeeStatistics.ofFees [100, 200] 2).response, 7⟩)]) := rfl
  have blank : FeeStatistics.ofFees [] 1 = .blank 1 := by simp [FeeStatistics.ofFees]
  have figures : FeeStatistics.ofFees [100, 200] 2 =
      ⟨200, 100, 100, 100, 100, 100, 100, 100, 200, 200, 200, 200, 200, 200, 2, 2⟩ := by
    rw [FeeStatistics.ofFees, FeeStatistics.mergeSort_of_ascending (by decide)]
    decide
  rcases Option.map_eq_some_iff.mp outcome with ⟨final, run, reached⟩
  rcases Prod.mk.inj reached with ⟨entered, answers⟩
  rcases List.map_eq_singleton_iff.mp answers with ⟨request, only, answered⟩
  rw [figures, blank] at answered
  have read := Request.read?_eq FeeStatsResponse.lossless_schema answered
  have member : request ∈ final.requests := by simp [only]
  have asked : request.asked = answerFeeStats .null := by
    simpa [busyReport] using (moments_of_answer rfl run member).1
  have unwrapped : ∀ ledger ∈ final.entered.dropLast, ledger.sequence ≠ 4294967295 := by
    rw [entered]
    decide
  rcases feeStats_never_behind begins reads run unwrapped member asked answered with
    ⟨-, -, moment, latest, newest, -, -, same, classic, contract, least, -, -, response, decoded, shows, counts, -, -⟩
  rw [Schema.decode_encode FeeStatsResponse.lossless_schema] at decoded
  cases decoded
  cases shows.latest
  exact ⟨final, request, _, moment.surroundings.book, newest, run, member, answered, same, classic, contract, least,
    read, shows, counts⟩

end LedgerService
