import LedgerService.Proofs.Traffic.Candor
import LedgerService.Rpc.Service

/-!
# Candid handlers

The methods of the service answer with what they find, and with errors of the request or of the store. None of them
ever speaks for a gate or a governor.
-/

namespace LedgerService

variable {σ : Type}

theorem Ending.candid_ok (value : Json) : (Ending.answered (.ok value)).Candid := by
  intro error same
  simp at same

theorem Ending.candid_error {error : RequestError} (own : error.isLimit = false) :
    (Ending.answered (.error error)).Candid := by
  intro other same
  rw [← Except.error.inj (Ending.answered.inj same)]
  exact own

theorem Ending.candid_panicked (text : Option String) : (Ending.panicked text).Candid := by
  intro error same
  simp at same

namespace Work

theorem candid_respond {α : Type} (schema : Schema α) (value : α) : (schema.respond value : Work σ).Candid :=
  .done (Ending.candid_ok _)

theorem candid_reply {error : RequestError} (own : error.isLimit = false) : (reply (.error error) : Work σ).Candid :=
  .done (Ending.candid_error own)

theorem candid_pauseFor (duration : Option Duration) {rest : Work σ} (candid : rest.Candid) :
    (pauseFor duration rest).Candid := by
  cases duration with
  | none => exact candid
  | some duration => exact .pause candid

end Work

namespace Surroundings

/-- What the store gives or fails with, and what it breaks down with, is no word of a limit. -/
theorem candid_read {α : Type} {query : σ → Except Failure α} {next : α → Work (Surroundings σ)}
    (candid : ∀ value, (next value).Candid) : (read query next).Candid := by
  apply Work.Candid.consult
  intro surroundings
  apply Work.candid_pauseFor
  split
  · exact .done (Ending.candid_panicked _)
  · exact Work.candid_reply rfl
  · apply Work.Candid.consult
    intro surroundings
    split
    · exact candid _
    · exact Work.candid_reply rfl

theorem candid_present {α : Type} {next : α → Work (Surroundings σ)} (candid : ∀ value, (next value).Candid)
    (value : Option α) : (present next value).Candid := by
  cases value with
  | none => exact Work.candid_reply rfl
  | some value => exact candid value

variable [LedgerSource σ]

theorem candid_readRange {next : SequenceRange → Work (Surroundings σ)} (candid : ∀ range, (next range).Candid) :
    (readRange next).Candid :=
  candid_read (candid_present candid)

theorem candid_readLatest {next : LedgerSummary → Work (Surroundings σ)} (candid : ∀ latest, (next latest).Candid) :
    (readLatest next).Candid :=
  candid_read (candid_present candid)

end Surroundings

theorem Schema.not_isLimit_of_params {α : Type} {schema : Schema α} {params : Json} {error : RequestError}
    (refused : schema.params params = .error error) : error.isLimit = false := by
  unfold Schema.params at refused
  dsimp only at refused
  split at refused
  · contradiction
  · rw [← Except.error.inj refused]
    rfl

theorem error_of_bind {α β ε : Type} {first : Except ε α} {next : α → Except ε β} {error : ε}
    (failed : first >>= next = .error error) :
    first = .error error ∨ ∃ value, first = .ok value ∧ next value = .error error := by
  cases first with
  | error other => exact .inl (congrArg Except.error (Except.error.inj failed))
  | ok value => exact .inr ⟨value, rfl, failed⟩

theorem PageLimits.not_isLimit_of_chosen {limits : PageLimits} {requested : UInt32} {error : RequestError}
    (refused : limits.chosen requested = .error error) : error.isLimit = false := by
  unfold chosen at refused
  split at refused
  · contradiction
  split at refused
  · rw [← Except.error.inj refused]
    rfl
  · contradiction

theorem not_isLimit_of_cursorSequence {cursor : String} {error : RequestError}
    (refused : cursorSequence cursor = .error error) : error.isLimit = false := by
  unfold cursorSequence at refused
  split at refused
  · contradiction
  · rw [← Except.error.inj refused]
    rfl

namespace LedgersRequest

theorem not_isLimit_of_start {request : LedgersRequest} {cursor : Option String} {range : SequenceRange}
    {error : RequestError} (refused : request.start cursor range = .error error) : error.isLimit = false := by
  cases cursor with
  | some cursor =>
      simp only [start] at refused
      split at refused
      · rw [← Except.error.inj refused]
        rfl
      · cases sequence : cursorSequence cursor with
        | ok number => simp [sequence] at refused
        | error fault =>
            rw [sequence] at refused
            rw [← Except.error.inj refused]
            exact not_isLimit_of_cursorSequence sequence
  | none =>
      simp only [start] at refused
      split at refused
      · rw [← Except.error.inj refused]
        rfl
      · contradiction

theorem not_isLimit_of_page {request : LedgersRequest} {limits : PageLimits} {range : SequenceRange}
    {error : RequestError} (refused : request.page limits range = .error error) : error.isLimit = false := by
  rcases error_of_bind refused with limit | ⟨limit, -, refused⟩
  · exact PageLimits.not_isLimit_of_chosen limit
  rcases error_of_bind refused with start | ⟨start, -, refused⟩
  · exact not_isLimit_of_start start
  · contradiction

end LedgersRequest

namespace ServiceConfig

variable [LedgerSource σ]

/-- No method of the service speaks for a gate or a governor. -/
theorem candid_methodList (config : ServiceConfig) :
    ∀ method ∈ (config.methodList : List (Method (Surroundings σ))), ∀ params, (method.handler params).Candid := by
  simp only [methodList, List.forall_mem_cons]
  refine ⟨fun _ => ?_, fun _ => ?_, fun _ => ?_, fun _ => ?_, fun params => ?_, fun _ => ?_, by simp⟩
  · apply Surroundings.candid_readRange
    intro range
    apply Surroundings.candid_readLatest
    intro latest
    apply Work.Candid.consult
    intro surroundings
    dsimp only
    split
    · exact Work.candid_reply rfl
    · exact Work.candid_respond _ _
  · exact Surroundings.candid_readLatest fun latest => Work.candid_respond _ _
  · exact Surroundings.candid_readLatest fun latest => Work.candid_respond _ _
  · exact Surroundings.candid_readLatest fun latest => Work.candid_respond _ _
  · unfold answerLedgers
    split
    · rename_i refused
      exact Work.candid_reply (Schema.not_isLimit_of_params refused)
    · apply Surroundings.candid_readRange
      intro range
      split
      · rename_i refused
        exact Work.candid_reply (LedgersRequest.not_isLimit_of_page refused)
      · apply Surroundings.candid_read
        intro ledgers
        apply Surroundings.candid_readLatest
        intro latest
        apply Surroundings.candid_read
        intro oldest
        exact Work.candid_respond _ _
  · apply Surroundings.candid_readRange
    intro range
    apply Work.Candid.consult
    intro surroundings
    exact Work.candid_respond _ _

end ServiceConfig

end LedgerService
