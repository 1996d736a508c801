import LedgerService.Rpc.Surroundings

/-!
# Work that is resumed again and again

Other work may go on between any two steps of some work, so each step meets the surroundings of its own moment
(`Work.after`). Work that reads and ends with an answer has met what it read at some moment, and the work that goes on
with it has met only later ones (`Work.of_read`). Work that only reads leaves the store and the fee book to those who
write (`Work.OnlyReads`).
-/

namespace LedgerService

namespace Work

variable {σ μ : Type}

/-- What is left of some work after its next step, in given surroundings. -/
def resume : Work σ → σ → Work σ
  | .done ending, _ => .done ending
  | .pause _ rest, _ => rest
  | .consult _ next, surroundings => next surroundings

/-- What the next step of some work makes of its surroundings. -/
def affect : Work σ → σ → σ
  | .consult change _, surroundings => change surroundings
  | _, surroundings => surroundings

/-- What is left of some work whose steps meet the surroundings of these moments, one after the other. -/
def after (shown : μ → σ) (work : Work σ) (moments : List μ) : Work σ :=
  moments.foldl (fun work moment => work.resume (shown moment)) work

variable {shown : μ → σ} {moments : List μ} {ending : Ending}

theorem after_done : (Work.done ending).after shown moments = .done ending := by
  induction moments with
  | nil => rfl
  | cons moment others ih => exact ih

theorem of_pauseFor {duration : Option Duration} {rest : Work σ}
    (ended : (pauseFor duration rest).after shown moments = .done ending) :
    ∃ later, later <:+ moments ∧ rest.after shown later = .done ending := by
  cases duration with
  | none => exact ⟨moments, List.suffix_refl moments, ended⟩
  | some duration =>
      cases moments with
      | nil => cases ended
      | cons moment later => exact ⟨later, List.suffix_cons moment later, ended⟩

theorem of_consult {change : σ → σ} {next : σ → Work σ}
    (ended : (Work.consult change next).after shown moments = .done ending) :
    ∃ moment later, moments = moment :: later ∧ (next (shown moment)).after shown later = .done ending := by
  cases moments with
  | nil => cases ended
  | cons moment later => exact ⟨moment, later, rfl, ended⟩

end Work

section

variable {σ μ : Type} {shown : μ → Surroundings σ} {moments : List μ} {json : Json}

namespace Work

theorem of_reply {result : Except RequestError Json}
    (ended : (reply result : Work (Surroundings σ)).after shown moments = .done (.answered (.ok json))) :
    result = .ok json := by
  rw [reply, after_done] at ended
  cases ended
  rfl

/-- Work that answers has met what it reads, and has gone on with it at later moments. -/
theorem of_read {α : Type} {query : σ → Except Failure α} {next : α → Work (Surroundings σ)}
    (ended : (Surroundings.read query next).after shown moments = .done (.answered (.ok json))) :
    ∃ moment later value, moment :: later <:+ moments ∧ query (shown moment).store = .ok value ∧
      (next value).after shown later = .done (.answered (.ok json)) := by
  rcases of_consult ended with ⟨called, answered, rfl, waiting⟩
  rcases of_pauseFor waiting with ⟨resumed, onward, rest⟩
  split at rest
  case h_1 =>
    rw [after_done] at rest
    cases rest
  case h_2 => cases of_reply rest
  case h_3 =>
    rcases of_consult rest with ⟨moment, later, rfl, found⟩
    split at found
    case h_1 value read =>
      exact ⟨moment, later, value, onward.trans (List.suffix_cons called answered), read, found⟩
    case h_2 => cases of_reply found

theorem of_present {α : Type} {next : α → Work (Surroundings σ)} {value : Option α}
    (ended : (Surroundings.present next value).after shown moments = .done (.answered (.ok json))) :
    ∃ present, value = some present ∧ (next present).after shown moments = .done (.answered (.ok json)) := by
  cases value with
  | none => cases of_reply ended
  | some present => exact ⟨present, rfl, ended⟩

theorem of_readRange [LedgerSource σ] {next : SequenceRange → Work (Surroundings σ)}
    (ended : (Surroundings.readRange next).after shown moments = .done (.answered (.ok json))) :
    ∃ moment later range, moment :: later <:+ moments ∧ LedgerSource.range (shown moment).store = .ok (some range) ∧
      (next range).after shown later = .done (.answered (.ok json)) := by
  rcases of_read ended with ⟨moment, later, found, onward, read, rest⟩
  rcases of_present rest with ⟨range, rfl, more⟩
  exact ⟨moment, later, range, onward, read, more⟩

theorem of_readLatest [LedgerSource σ] {next : LedgerSummary → Work (Surroundings σ)}
    (ended : (Surroundings.readLatest next).after shown moments = .done (.answered (.ok json))) :
    ∃ moment later latest, moment :: later <:+ moments ∧ LedgerSource.latest (shown moment).store = .ok (some latest) ∧
      (next latest).after shown later = .done (.answered (.ok json)) := by
  rcases of_read ended with ⟨moment, later, found, onward, read, rest⟩
  rcases of_present rest with ⟨latest, rfl, more⟩
  exact ⟨moment, later, latest, onward, read, more⟩

theorem of_readLedgers [LedgerSource σ] {start limit : UInt32} {next : List ClosedLedger → Work (Surroundings σ)}
    (ended : (Surroundings.readLedgers start limit next).after shown moments = .done (.answered (.ok json))) :
    ∃ moment later ledgers, moment :: later <:+ moments ∧
      LedgerSource.ledgers (shown moment).store start limit = .ok ledgers ∧
      (next ledgers).after shown later = .done (.answered (.ok json)) :=
  of_read ended

theorem of_respond {α : Type} {schema : Schema α} {value : α}
    (ended : (schema.respond value : Work (Surroundings σ)).after shown moments = .done (.answered (.ok json))) :
    json = schema.encode value :=
  (Except.ok.inj (of_reply ended)).symm

/-- The work changes neither the store nor the fee book. -/
def OnlyReads : Work (Surroundings σ) → Prop
  | .done _ => True
  | .pause _ rest => rest.OnlyReads
  | .consult change next =>
    (∀ surroundings,
      (change surroundings).store = surroundings.store ∧ (change surroundings).book = surroundings.book) ∧
    ∀ surroundings, (next surroundings).OnlyReads

theorem OnlyReads.resume {work : Work (Surroundings σ)} (reads : work.OnlyReads) (surroundings : Surroundings σ) :
    (work.resume surroundings).OnlyReads := by
  cases work with
  | done ending => exact reads
  | pause duration rest => exact reads
  | consult change next => exact reads.2 surroundings

theorem OnlyReads.affect {work : Work (Surroundings σ)} (reads : work.OnlyReads) (surroundings : Surroundings σ) :
    (work.affect surroundings).store = surroundings.store ∧ (work.affect surroundings).book = surroundings.book := by
  cases work with
  | done ending => exact ⟨rfl, rfl⟩
  | pause duration rest => exact ⟨rfl, rfl⟩
  | consult change next => exact reads.1 surroundings

theorem OnlyReads.pauseFor {rest : Work (Surroundings σ)} (reads : rest.OnlyReads) (duration : Option Duration) :
    (pauseFor duration rest).OnlyReads := by
  cases duration <;> exact reads

theorem onlyReads_read {α : Type} (query : σ → Except Failure α) {next : α → Work (Surroundings σ)}
    (reads : ∀ value, (next value).OnlyReads) : (Surroundings.read query next).OnlyReads := by
  refine ⟨fun _ => ⟨rfl, rfl⟩, ?_⟩
  intro surroundings
  apply OnlyReads.pauseFor
  split
  case h_1 => trivial
  case h_2 => trivial
  case h_3 =>
    refine ⟨fun _ => ⟨rfl, rfl⟩, ?_⟩
    intro surroundings
    cases found : query surroundings.store with
    | ok value =>
        simp only [found]
        exact reads value
    | error failure =>
        simp only [found]
        trivial

theorem onlyReads_present {α : Type} {next : α → Work (Surroundings σ)} (reads : ∀ value, (next value).OnlyReads)
    (value : Option α) : (Surroundings.present next value).OnlyReads := by
  cases value with
  | none => trivial
  | some value => exact reads value

end Work

end

end LedgerService
