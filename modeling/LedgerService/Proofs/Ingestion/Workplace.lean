import LedgerService.Ingestion
import LedgerService.Proofs.Ingestion.Keeping
import LedgerService.Proofs.Rpc.Resuming

/-!
# Ingestion beside requests

One task ingests ledgers, one after the other, while requests are at work that only read. What each of them does is cut
up where it waits, and the pieces follow one another in any order (`Workplace.run?`); any operation of the store can
fail at any of its calls. What is left of a request is what its own steps have made of it, and each of these met one of
the moments of the run, in order (`Workplace.trace_of_request`). At any moment the store holds the ledgers that were
committed (`Workplace.Stocked`), and what was committed or entered remains so (`Workplace.grows_views`).
-/

namespace LedgerService

/-- A request, and what is left to do for it. -/
structure Request where
  asked : Work (Surroundings (Rehearsal LedgerSession))
  left : Work (Surroundings (Rehearsal LedgerSession))

/-- What a request has been answered with, unless that is an error. -/
def Request.answer? (request : Request) : Option Json :=
  match request.left with
  | .done (.answered (.ok json)) => some json
  | _ => none

theorem Request.left_of_answer {request : Request} {json : Json} (answered : request.answer? = some json) :
    request.left = .done (.answered (.ok json)) := by
  rw [answer?] at answered
  split at answered
  case h_1 left =>
    cases answered
    exact left
  case h_2 => cases answered

/-- What a client reads as the answer to a request, with the layout that it expects. -/
def Request.read? {α : Type} (schema : Schema α) (request : Request) : Option α :=
  request.answer?.bind fun json => (schema.decode json).toOption

theorem Request.read?_eq {α : Type} {schema : Schema α} (lossless : schema.Lossless) {request : Request} {value : α}
    (answered : request.answer? = some (schema.encode value)) : request.read? schema = some value := by
  rw [read?, answered, Option.bind_some, Schema.decode_encode lossless]
  rfl

/-- One task that ingests ledgers, and requests that are at work meanwhile. -/
structure Workplace where
  surroundings : Surroundings (Rehearsal LedgerSession)
  /-- The ledger that is being ingested, and how far its ingestion has come. -/
  ingestion : Option (ClosedLedger × IngestStage)
  requests : List Request
  /-- The stored ledgers, with those committed meanwhile in the order of their commits. -/
  stored : List ClosedLedger
  /-- The ledgers that the fee book has accepted. -/
  entered : List ClosedLedger

/-- What can happen next. -/
inductive Happening where
  /-- The task begins to ingest a ledger. -/
  | offer (ledger : ClosedLedger)
  /-- The ingestion goes on by one stage; the given operations of the store fail. -/
  | ingest (faults : Faults)
  | ask (work : Work (Surroundings (Rehearsal LedgerSession)))
  /-- The request with this number goes on by one step. -/
  | advance (number : Nat)

/-- Requests only read. -/
def Happening.OnlyReads : Happening → Prop
  | .ask work => work.OnlyReads
  | _ => True

namespace Workplace

/-- The ingestion of a ledger goes on by a stage. -/
def ingested (workplace : Workplace) (ledger : ClosedLedger) (stage : IngestStage) (faults : Faults) : Workplace :=
  let (next, store, book) :=
    stage.step ledger { workplace.surroundings.store with faults } workplace.surroundings.book
  { workplace with
    surroundings := { workplace.surroundings with store, book }
    ingestion :=
      match next with
      | .ended _ => none
      | _ => some (ledger, next)
    stored :=
      match stage, next with
      | .committing, .ended (.ok ()) => workplace.stored ++ [ledger]
      | _, _ => workplace.stored
    entered :=
      match stage, next with
      | .entering, .committing => workplace.entered ++ [ledger]
      | _, _ => workplace.entered }

/-- A request goes on by a step. -/
def advanced (workplace : Workplace) (number : Nat) (request : Request) : Workplace :=
  { workplace with
    surroundings := request.left.affect workplace.surroundings
    requests := workplace.requests.set number { request with left := request.left.resume workplace.surroundings } }

/-- What comes of a happening, if it can happen. -/
def step? (workplace : Workplace) : Happening → Option Workplace
  | .offer ledger =>
    match workplace.ingestion with
    | none => some { workplace with ingestion := some (ledger, .opening) }
    | some _ => none
  | .ingest faults => workplace.ingestion.map fun (ledger, stage) => workplace.ingested ledger stage faults
  | .ask work => some { workplace with requests := workplace.requests ++ [⟨work, work⟩] }
  | .advance number => workplace.requests[number]?.map (workplace.advanced number)

/-- What comes of happenings, one after the other, if they can happen. -/
def run? (workplace : Workplace) (happenings : List Happening) : Option Workplace :=
  happenings.foldlM step? workplace

/-- The moments of a run, each before one of the happenings. -/
def views (workplace : Workplace) : List Happening → List Workplace
  | [] => []
  | happening :: others =>
    workplace :: match workplace.step? happening with
      | some next => next.views others
      | none => []

/-- The requests that are asked. -/
def asks (happenings : List Happening) : List Request :=
  happenings.filterMap fun
    | .ask work => some ⟨work, work⟩
    | _ => none

/-- Nothing that was committed or entered is lost. -/
structure Grows (earlier later : Workplace) : Prop where
  stored : earlier.stored <+: later.stored
  entered : earlier.entered <+: later.entered

section

variable {workplace next final : Workplace} {happening : Happening} {happenings : List Happening}

theorem run?_cons : workplace.run? (happening :: happenings) = (workplace.step? happening).bind fun next =>
    next.run? happenings :=
  List.foldlM_cons

theorem run?_eq_some (run : workplace.run? (happening :: happenings) = some final) :
    ∃ next, workplace.step? happening = some next ∧ next.run? happenings = some final :=
  Option.bind_eq_some_iff.mp run

/-- What every step keeps, a run keeps. -/
theorem run_keeps {invariant : Workplace → Prop}
    (keeps : ∀ happening ∈ happenings, ∀ earlier later : Workplace, earlier.step? happening = some later →
      invariant earlier → invariant later)
    (holds : invariant workplace) (run : workplace.run? happenings = some final) : invariant final := by
  induction happenings generalizing workplace with
  | nil =>
      cases run
      exact holds
  | cons happening others ih =>
      rcases List.forall_mem_cons.mp keeps with ⟨own, rest⟩
      rcases run?_eq_some run with ⟨next, stepped, onward⟩
      exact ih rest (own workplace next stepped holds) onward

theorem Grows.refl (workplace : Workplace) : workplace.Grows workplace :=
  ⟨List.prefix_refl _, List.prefix_refl _⟩

theorem Grows.trans {earlier later : Workplace} (first : earlier.Grows workplace) (second : workplace.Grows later) :
    earlier.Grows later :=
  ⟨first.stored.trans second.stored, first.entered.trans second.entered⟩

theorem grows_ingested (workplace : Workplace) (ledger : ClosedLedger) (stage : IngestStage) (faults : Faults) :
    workplace.Grows (workplace.ingested ledger stage faults) := by
  rw [ingested]
  rcases stage.step ledger _ _ with ⟨reached, store, book⟩
  constructor
  · dsimp only
    split
    · exact List.prefix_append _ _
    · exact List.prefix_refl _
  · dsimp only
    split
    · exact List.prefix_append _ _
    · exact List.prefix_refl _

/-- What can come of a happening: the ingestion goes on, or something happens beside it. -/
inductive Follows (workplace next : Workplace) : Prop where
  | ingested (ledger : ClosedLedger) (stage : IngestStage) (faults : Faults)
      (under : workplace.ingestion = some (ledger, stage)) (result : next = workplace.ingested ledger stage faults)
  | beside (stored : next.stored = workplace.stored) (entered : next.entered = workplace.entered)
      (ingestion : next.ingestion = workplace.ingestion ∨ ∃ ledger, next.ingestion = some (ledger, .opening))
      (surroundings : next.surroundings = workplace.surroundings ∨
        ∃ request ∈ workplace.requests, next.surroundings = request.left.affect workplace.surroundings)

theorem follows_step (stepped : workplace.step? happening = some next) : workplace.Follows next := by
  cases happening with
  | offer ledger =>
      rw [step?] at stepped
      split at stepped
      · cases stepped
        exact .beside rfl rfl (.inr ⟨ledger, rfl⟩) (.inl rfl)
      · cases stepped
  | ingest faults =>
      rcases Option.map_eq_some_iff.mp stepped with ⟨⟨ledger, stage⟩, under, rfl⟩
      exact .ingested ledger stage faults under rfl
  | ask work =>
      cases stepped
      exact .beside rfl rfl (.inl rfl) (.inl rfl)
  | advance number =>
      rcases Option.map_eq_some_iff.mp stepped with ⟨request, found, rfl⟩
      exact .beside rfl rfl (.inl rfl) (.inr ⟨request, List.mem_of_getElem? found, rfl⟩)

theorem grows_step (stepped : workplace.step? happening = some next) : workplace.Grows next := by
  cases follows_step stepped with
  | ingested ledger stage faults _ result =>
      rw [result]
      exact workplace.grows_ingested ledger stage faults
  | beside stored entered _ _ =>
      constructor
      · rw [stored]
      · rw [entered]

theorem grows_run (run : workplace.run? happenings = some final) : workplace.Grows final :=
  run_keeps (fun _ _ _ _ stepped grown => grown.trans (grows_step stepped)) (.refl workplace) run

/-- The moments of a run are what has come of the happenings before. -/
theorem reached_of_mem_views {moment : Workplace} (run : workplace.run? happenings = some final)
    (member : moment ∈ workplace.views happenings) :
    ∃ before after, happenings = before ++ after ∧ workplace.run? before = some moment ∧
      moment.run? after = some final := by
  induction happenings generalizing workplace with
  | nil => cases member
  | cons happening others ih =>
      rcases List.mem_cons.mp member with rfl | later
      · exact ⟨[], happening :: others, rfl, rfl, run⟩
      · rcases run?_eq_some run with ⟨next, stepped, rest⟩
        rw [stepped] at later
        rcases ih rest later with ⟨before, after, rfl, reached, onward⟩
        refine ⟨happening :: before, after, rfl, ?_, onward⟩
        rw [run?_cons, stepped]
        exact reached

/-- What every step keeps holds at the moments of a run. -/
theorem views_keep {invariant : Workplace → Prop}
    (keeps : ∀ happening ∈ happenings, ∀ earlier later : Workplace, earlier.step? happening = some later →
      invariant earlier → invariant later)
    (holds : invariant workplace) (run : workplace.run? happenings = some final) {moment : Workplace}
    (member : moment ∈ workplace.views happenings) : invariant moment ∧ moment.Grows final := by
  rcases reached_of_mem_views run member with ⟨before, after, rfl, reached, onward⟩
  refine ⟨run_keeps ?_ holds reached, grows_run onward⟩
  intro happening earlier
  exact keeps happening (List.mem_append_left after earlier)

theorem grows_views (run : workplace.run? happenings = some final) :
    (workplace.views happenings).Pairwise Grows := by
  induction happenings generalizing workplace with
  | nil => exact .nil
  | cons happening others ih =>
      rcases run?_eq_some run with ⟨next, stepped, rest⟩
      rw [views, stepped]
      refine List.pairwise_cons.mpr ⟨?_, ih rest⟩
      intro moment member
      rcases reached_of_mem_views rest member with ⟨before, after, -, reached, -⟩
      exact (grows_step stepped).trans (grows_run reached)

theorem ask_of_mem_asks {request : Request} (member : request ∈ asks happenings) :
    .ask request.asked ∈ happenings ∧ request.left = request.asked := by
  rcases List.mem_filterMap.mp member with ⟨happening, known, new⟩
  cases happening with
  | ask work =>
      cases new
      exact ⟨known, rfl⟩
  | offer ledger => cases new
  | ingest faults => cases new
  | advance number => cases new

/-- A step leaves a request as it is, unless it is the request that goes on, or one that is asked. -/
theorem request_of_step (stepped : workplace.step? happening = some next) {request : Request}
    (member : request ∈ next.requests) :
    request ∈ workplace.requests ∨ request ∈ asks [happening] ∨
      ∃ earlier ∈ workplace.requests,
        request = { earlier with left := earlier.left.resume workplace.surroundings } := by
  cases happening with
  | offer ledger =>
      rw [step?] at stepped
      split at stepped
      · cases stepped
        exact .inl member
      · cases stepped
  | ingest faults =>
      rcases Option.map_eq_some_iff.mp stepped with ⟨⟨ledger, stage⟩, -, rfl⟩
      exact .inl member
  | ask work =>
      cases stepped
      rcases List.mem_append.mp member with old | new
      · exact .inl old
      · exact .inr (.inl new)
  | advance number =>
      rcases Option.map_eq_some_iff.mp stepped with ⟨earlier, found, rfl⟩
      rcases List.mem_or_eq_of_mem_set member with old | rfl
      · exact .inl old
      · exact .inr (.inr ⟨earlier, List.mem_of_getElem? found, rfl⟩)

/-- What is left of a request is what its steps have made of it, each at a moment of the run. -/
theorem trace_of_request (run : workplace.run? happenings = some final) {request : Request}
    (member : request ∈ final.requests) :
    ∃ origin ∈ workplace.requests ++ asks happenings, origin.asked = request.asked ∧
      ∃ moments, moments.Sublist (workplace.views happenings) ∧
        request.left = origin.left.after surroundings moments := by
  induction happenings generalizing workplace with
  | nil =>
      cases run
      exact ⟨request, List.mem_append_left _ member, rfl, [], List.nil_sublist _, rfl⟩
  | cons happening others ih =>
      rcases run?_eq_some run with ⟨next, stepped, rest⟩
      rcases ih rest with ⟨origin, present, same, moments, ordered, left⟩
      rw [views, stepped]
      have asked : asks (happening :: others) = asks [happening] ++ asks others :=
        List.filterMap_append (l := [happening])
      rw [asked]
      rcases List.mem_append.mp present with old | new
      · rcases request_of_step stepped old with unchanged | fresh | ⟨earlier, known, rfl⟩
        · exact ⟨origin, List.mem_append_left _ unchanged, same, moments, ordered.cons workplace, left⟩
        · refine ⟨origin, ?_, same, moments, ordered.cons workplace, left⟩
          exact List.mem_append_right _ (List.mem_append_left _ fresh)
        · exact ⟨earlier, List.mem_append_left _ known, same, workplace :: moments, ordered.cons_cons workplace, left⟩
      · refine ⟨origin, ?_, same, moments, ordered.cons workplace, left⟩
        exact List.mem_append_right _ (List.mem_append_right _ new)

/-- A request that was asked and answered during the run has done its work at moments of the run. -/
theorem moments_of_answer (idle : workplace.requests = []) (run : workplace.run? happenings = some final)
    {request : Request} (member : request ∈ final.requests) :
    .ask request.asked ∈ happenings ∧ ∀ json, request.answer? = some json →
      ∃ moments, moments.Sublist (workplace.views happenings) ∧
        request.asked.after surroundings moments = .done (.answered (.ok json)) := by
  rcases trace_of_request run member with ⟨origin, present, same, moments, ordered, left⟩
  rw [idle, List.nil_append] at present
  rcases ask_of_mem_asks present with ⟨known, whole⟩
  rw [same] at known whole
  refine ⟨known, ?_⟩
  intro json answered
  refine ⟨moments, ordered, ?_⟩
  rw [← whole, ← left]
  exact Request.left_of_answer answered

end

/-- The rows of the store. -/
def rows (workplace : Workplace) : List LedgerRow := workplace.surroundings.store.store.table.rows

/-- What a stage of an ingestion finds in the transaction that is being written. -/
def Prepared (session : LedgerSession) (ledger : ClosedLedger) : IngestStage → Prop
  | .inserting => session.transaction.added = some []
  | .entering | .committing => session.transaction.added = some [ledger.row]
  | _ => True

/-- An ingestion is over, or goes on with a stage before the commit that finds what it needs. -/
def Continues (workplace : Workplace) (ledger : ClosedLedger) : Prop :=
  workplace.ingestion = none ∨
    ∃ stage, workplace.ingestion = some (ledger, stage) ∧ stage ≠ .committing ∧
      Prepared workplace.surroundings.store.store ledger stage

theorem Continues.prepared {workplace : Workplace} {ledger : ClosedLedger} (continues : workplace.Continues ledger) :
    ∀ other stage, workplace.ingestion = some (other, stage) →
      Prepared workplace.surroundings.store.store other stage := by
  intro other stage found
  rcases continues with idle | ⟨reached, under, -, prepared⟩
  · rw [idle] at found
    cases found
  · rw [under] at found
    cases found
    exact prepared

theorem Continues.not_committing {workplace : Workplace} {ledger other : ClosedLedger}
    (continues : workplace.Continues ledger) : workplace.ingestion ≠ some (other, .committing) := by
  intro found
  rcases continues with idle | ⟨reached, under, early, -⟩
  · rw [idle] at found
    cases found
  · rw [under] at found
    cases found
    exact early rfl

/-- What one stage of an ingestion can come to. -/
inductive Passes (workplace next : Workplace) (ledger : ClosedLedger) (stage : IngestStage) : Prop where
  | quiet (rows : next.rows = workplace.rows) (stored : next.stored = workplace.stored)
      (entered : next.entered = workplace.entered) (book : next.surroundings.book = workplace.surroundings.book)
      (onward : next.Continues ledger)
  | refused (rows : next.rows = workplace.rows) (stored : next.stored = workplace.stored)
      (entered : next.entered = workplace.entered) (failure : FeeFailure)
      (book : workplace.surroundings.book.append ledger = (next.surroundings.book, .error failure))
      (onward : next.Continues ledger)
  | accepted (rows : next.rows = workplace.rows) (stored : next.stored = workplace.stored)
      (entered : next.entered = workplace.entered ++ [ledger])
      (book : workplace.surroundings.book.append ledger = (next.surroundings.book, .ok ()))
      (onward : next.ingestion = some (ledger, .committing))
      (prepared : Prepared next.surroundings.store.store ledger .committing)
  | committed (due : stage = .committing) (rows : next.rows.Perm (ledger.row :: workplace.rows))
      (stored : next.stored = workplace.stored ++ [ledger]) (entered : next.entered = workplace.entered)
      (book : next.surroundings.book = workplace.surroundings.book) (idle : next.ingestion = none)

theorem passes_ingested {workplace : Workplace} {ledger : ClosedLedger} {stage : IngestStage}
    (prepared : Prepared workplace.surroundings.store.store ledger stage) (faults : Faults) :
    workplace.Passes (workplace.ingested ledger stage faults) ledger stage := by
  have rows :
      LedgerSession.view.rehearsed.committed { workplace.surroundings.store with faults } = workplace.rows := rfl
  have pending : Prepared ({ workplace.surroundings.store with faults } : Rehearsal LedgerSession).store ledger stage :=
    prepared
  rw [ingested]
  generalize ({ workplace.surroundings.store with faults } : Rehearsal LedgerSession) = store at rows pending ⊢
  cases stage with
  | opening =>
      have kept := (LedgerSession.view.rehearsed.committed_open store).trans rows
      have begun := LedgerSession.view.rehearsed.pending_open store
      rw [IngestStage.step]
      generalize LedgerSink.openTransaction store = opening at kept begun ⊢
      rcases opening with ⟨opened, failure | _⟩
      · exact .quiet kept rfl rfl rfl (.inl rfl)
      · exact .quiet kept rfl rfl rfl (.inr ⟨.inserting, rfl, by simp, begun rfl⟩)
  | inserting =>
      have kept := (LedgerSession.view.rehearsed.committed_insert ledger store).trans rows
      have added := LedgerSession.view.rehearsed.pending_insert ledger store [] pending
      rw [IngestStage.step]
      generalize LedgerSink.insert ledger store = inserting at kept added ⊢
      rcases inserting with ⟨inserted, failure | _⟩
      · exact .quiet kept rfl rfl rfl (.inr ⟨.discarding failure, rfl, by simp, trivial⟩)
      · exact .quiet kept rfl rfl rfl (.inr ⟨.entering, rfl, by simp, added rfl⟩)
  | discarding failure =>
      exact .quiet ((LedgerSession.view.rehearsed.committed_rollback store).trans rows) rfl rfl rfl (.inl rfl)
  | entering =>
      rw [IngestStage.step]
      rcases appended : workplace.surroundings.book.append ledger with ⟨larger, failure | _⟩
      · exact .refused rows rfl rfl failure appended (.inr ⟨.abandoning failure, rfl, by simp, trivial⟩)
      · exact .accepted rows rfl rfl appended rfl pending
  | abandoning failure =>
      exact .quiet ((LedgerSession.view.rehearsed.committed_rollback store).trans rows) rfl rfl rfl (.inl rfl)
  | committing =>
      have joined := LedgerSession.view.rehearsed.committed_commit store [ledger.row] pending
      have unchanged {failure : Failure} : (LedgerSink.commit store).2 = .error failure →
          (LedgerSink.commit store).1.store = store.store := Rehearsal.store_of_commit_error pending
      rw [IngestStage.step]
      generalize LedgerSink.commit store = committing at joined unchanged ⊢
      rcases committing with ⟨closed, failure | _⟩
      · exact .quiet ((congrArg (fun session => session.table.rows) (unchanged rfl)).trans rows) rfl rfl rfl (.inl rfl)
      · have more := joined rfl
        rw [rows] at more
        exact .committed rfl more rfl rfl rfl rfl
  | ended result => exact .quiet rows rfl rfl rfl (.inl rfl)

/-- The store holds the stored ledgers, the ingestion under way has done its part, and requests only read. -/
structure Stocked (workplace : Workplace) : Prop where
  ordered : workplace.surroundings.store.store.Ordered
  rows : workplace.rows.Perm (workplace.stored.map ClosedLedger.row)
  prepared : ∀ ledger stage, workplace.ingestion = some (ledger, stage) →
    Prepared workplace.surroundings.store.store ledger stage
  reads : ∀ request ∈ workplace.requests, request.left.OnlyReads

namespace Stocked

variable {workplace next final : Workplace}

theorem ingested (stocked : workplace.Stocked) {ledger : ClosedLedger} {stage : IngestStage}
    (under : workplace.ingestion = some (ledger, stage)) (faults : Faults) :
    (workplace.ingested ledger stage faults).Stocked := by
  have ordered : (workplace.ingested ledger stage faults).surroundings.store.store.Ordered :=
    LedgerSession.keeps_ordered.rehearsed.step ledger stage workplace.surroundings.book stocked.ordered
  have passes := passes_ingested (stocked.prepared ledger stage under) faults
  have reads : ∀ request ∈ (workplace.ingested ledger stage faults).requests, request.left.OnlyReads := stocked.reads
  generalize workplace.ingested ledger stage faults = next at ordered passes reads ⊢
  cases passes with
  | quiet rows stored _ _ onward =>
      refine ⟨ordered, ?_, onward.prepared, reads⟩
      rw [rows, stored]
      exact stocked.rows
  | refused rows stored _ _ _ onward =>
      refine ⟨ordered, ?_, onward.prepared, reads⟩
      rw [rows, stored]
      exact stocked.rows
  | accepted rows stored _ _ onward prepared =>
      refine ⟨ordered, ?_, ?_, reads⟩
      · rw [rows, stored]
        exact stocked.rows
      · intro other reached found
        rw [onward] at found
        cases found
        exact prepared
  | committed _ rows stored _ _ idle =>
      refine ⟨ordered, ?_, ?_, reads⟩
      · rw [stored, List.map_append]
        exact (rows.trans (stocked.rows.cons ledger.row)).trans (List.perm_append_singleton _ _).symm
      · intro other reached found
        rw [idle] at found
        cases found

/-- Whatever happens beside the ingestion leaves the store and the fee book alone. -/
theorem untouched (stocked : workplace.Stocked)
    (surroundings : next.surroundings = workplace.surroundings ∨
      ∃ request ∈ workplace.requests, next.surroundings = request.left.affect workplace.surroundings) :
    next.surroundings.store = workplace.surroundings.store ∧ next.surroundings.book = workplace.surroundings.book := by
  rcases surroundings with same | ⟨request, member, affected⟩
  · rw [same]
    exact ⟨rfl, rfl⟩
  · rw [affected]
    exact (stocked.reads request member).affect workplace.surroundings

theorem step (stocked : workplace.Stocked) {happening : Happening} (reads : happening.OnlyReads)
    (stepped : workplace.step? happening = some next) : next.Stocked := by
  cases follows_step stepped with
  | ingested ledger stage faults under result =>
      rw [result]
      exact stocked.ingested under faults
  | beside stored _ ingestion surroundings =>
      have store := (stocked.untouched surroundings).1
      refine ⟨?_, ?_, ?_, ?_⟩
      · rw [store]
        exact stocked.ordered
      · rw [Workplace.rows, store, stored]
        exact stocked.rows
      · intro ledger stage under
        rw [store]
        rcases ingestion with same | ⟨other, fresh⟩
        · exact stocked.prepared ledger stage (same.symm.trans under)
        · rw [fresh] at under
          cases under
          trivial
      · intro request member
        rcases request_of_step stepped member with old | new | ⟨earlier, known, rfl⟩
        · exact stocked.reads request old
        · rcases ask_of_mem_asks new with ⟨asked, whole⟩
          rw [← List.mem_singleton.mp asked] at reads
          rw [whole]
          exact reads
        · exact (stocked.reads earlier known).resume workplace.surroundings

theorem moment (stocked : workplace.Stocked) {happenings : List Happening}
    (reads : ∀ happening ∈ happenings, happening.OnlyReads) (run : workplace.run? happenings = some final)
    {moment : Workplace} (member : moment ∈ workplace.views happenings) : moment.Stocked ∧ moment.Grows final := by
  apply views_keep _ stocked run member
  intro happening known earlier later stepped holds
  exact holds.step (reads happening known) stepped

end Stocked

end Workplace

end LedgerService
