import LedgerService.Proofs.Traffic.Slots

/-!
# Candor

An answer that tells of a limit comes from a gate or a governor if the work itself never gives such an answer. The
label of such an ending then tells what happened to the call: `Move.steady` says that the labels with which calls
are recorded are those that gates and governors gave them.
-/

namespace LedgerService

variable {σ : Type}

/-- The error tells of a limit. -/
def RequestError.isLimit : RequestError → Bool
  | .backlogFull .. | .durationExceeded .. => true
  | _ => false

/-- The label of an ending that tells of a limit. -/
def IsLimitLabel (status : String) : Prop := status = "backlog_full" ∨ status = "execution_duration_exceeded"

/-- The ending does not tell of a limit. -/
def Ending.Candid (ending : Ending) : Prop := ∀ error, ending = .answered (.error error) → error.isLimit = false

/-- Work that never answers in the name of a gate or a governor. -/
inductive Work.Candid : Work σ → Prop where
  | done {ending} (candid : ending.Candid) : Candid (.done ending)
  | pause {duration rest} (candid : Candid rest) : Candid (.pause duration rest)
  | consult {change next} (candid : ∀ surroundings, Candid (next surroundings)) : Candid (.consult change next)

/-- A label that tells of a limit is not the label of another error. -/
theorem RequestError.isLimit_of_category {error : RequestError} (told : IsLimitLabel error.category) :
    error.isLimit = true := by
  cases error with
  | service cause => cases cause <;> simp [IsLimitLabel, category] at told
  | _ => simp_all [IsLimitLabel, category, isLimit]

namespace Ending

variable {ending : Ending} {status : String}

theorem Candid.status?_ne (candid : ending.Candid) (told : IsLimitLabel status) : ending.status? ≠ some status := by
  intro labelled
  cases ending with
  | answered result =>
      cases result with
      | ok value =>
          rcases Option.some.inj labelled with rfl
          simp [IsLimitLabel] at told
      | error error =>
          rcases Option.some.inj labelled with rfl
          have limit := RequestError.isLimit_of_category told
          rw [candid error rfl] at limit
          contradiction
  | panicked text => contradiction

theorem status?_contained (resource : String) (told : IsLimitLabel status) :
    (ending.contained resource).status? = some status ↔ ending.status? = some status := by
  cases ending with
  | answered result => rfl
  | panicked text =>
      rcases told with rfl | rfl <;> simp [contained, status?, RequestError.category]

end Ending

theorem Traffic.status?_containedBy (traffic : Traffic σ) (wait : Wait) (ending : Ending) {status : String}
    (told : IsLimitLabel status) :
    (traffic.containedBy wait ending).status? = some status ↔ ending.status? = some status := by
  unfold containedBy
  split
  · exact Ending.status?_contained _ told
  · rfl

theorem Duty.count_noted (duty : Duty) (ending : Ending) (endpoint status : String) :
    (duty.noted ending).count (.recorded endpoint status) =
      if ending.status? = some status then [duty].count (.record endpoint) else 0 := by
  cases duty with
  | leave gate => simp [noted]
  | record other =>
      cases labelled : ending.status? with
      | none => simp [noted, labelled]
      | some label =>
          by_cases same : label = status
          · simp [noted, labelled, same, List.count_cons]
          · simp [noted, labelled, same]

namespace Chain

/-- The work of the chain is candid. -/
def Candid (chain : Chain σ) : Prop :=
  match chain.focus with
  | .entering _ work => work.Candid
  | .asleep _ rest => rest.Candid
  | .leaving _ => True

/-- The label of the ending with which the innermost task is on its way out. -/
def verdict (chain : Chain σ) : Option String :=
  match chain.focus with
  | .leaving ending => ending.status?
  | _ => none

/-- How often a chain will be recorded for an endpoint with a label. -/
def carries (endpoint status : String) (chain : Chain σ) : Nat :=
  if chain.verdict = some status then chain.owed.count (.record endpoint) else 0

theorem carries_eq_zero {chain : Chain σ} {endpoint status : String} (other : chain.verdict ≠ some status) :
    chain.carries endpoint status = 0 :=
  if_neg other

/-- The inner part of a cut chain keeps its label, and with it what it owes. -/
theorem carries_cut {chain : Chain σ} {place : Nat} {wait : Wait} (found : chain.waits[place]? = some wait)
    (ending : Ending) (endpoint status : String) :
    chain.carries endpoint status = (chain.inner place).carries endpoint status +
      if chain.verdict = some status then (chain.outer place wait ending).owed.count (.record endpoint) else 0 := by
  have same : (chain.inner place).verdict = chain.verdict := rfl
  rw [carries, carries, same, ← count_owed_cut found ending]
  split <;> omega

end Chain

namespace Move

variable {traffic left : Traffic σ} {chain : Chain σ} {facts : List CallFact} {parts : List (Chain σ)}

theorem candid (move : Move traffic chain facts left parts) (candid : chain.Candid) : ∀ part ∈ parts, part.Candid := by
  cases move with
  | pause focus =>
      rw [List.forall_mem_singleton]
      rw [Chain.Candid, focus] at candid
      cases candid with
      | pause candid => exact candid
  | consult focus =>
      rw [List.forall_mem_singleton]
      rw [Chain.Candid, focus] at candid
      cases candid with
      | consult candid => exact candid _
  | refuse => simp [Chain.Candid]
  | finish => simp [Chain.Candid]
  | resume => simp [Chain.Candid]
  | answer => simp
  | expire =>
      intro part mem
      rcases List.mem_pair.mp mem with rfl | rfl
      · exact trivial
      · exact candid
  | warn =>
      rw [List.forall_mem_singleton]
      exact candid
  | discharge =>
      rw [List.forall_mem_singleton]
      exact candid
  | _ =>
      rw [List.forall_mem_singleton]
      simpa [Chain.Candid, *] using candid

/-- Unless a gate or a governor steps in, a label that tells of a limit stays with the chain until it is recorded. -/
theorem steady (move : Move traffic chain facts left parts) (candid : chain.Candid) (endpoint : String) {status : String}
    (told : IsLimitLabel status) (unrefused : ∀ gate, .refused gate ∉ facts)
    (unexpired : ∀ governor, .expired governor ∉ facts) :
    facts.count (.recorded endpoint status) + (parts.map (Chain.carries endpoint status)).sum =
      chain.carries endpoint status := by
  cases move with
  | @refuse index => exact absurd (by simp) (unrefused index)
  | @expire position wait => exact absurd (by simp) (unexpired wait.governor)
  | finish focus =>
      rw [Chain.Candid, focus] at candid
      cases candid with
      | done candid =>
          have other := candid.status?_ne told
          simp [Chain.count_returned_of_ne, Chain.carries, Chain.verdict, focus, other]
  | @discharge ending duty duties focus ahead =>
      rw [List.count_append, Chain.count_returned_of_ne _ (by simp), duty.count_noted]
      simp only [Nat.zero_add, List.map_singleton, List.sum_singleton, Chain.carries, Chain.verdict, focus,
        Chain.owed, ahead, List.cons_append]
      by_cases labelled : ending.status? = some status
      · simp only [labelled, if_true]
        rw [count_cons_split _ duty (duties ++ _)]
      · simp only [labelled, if_false]
  | resume focus free outside =>
      simp [Chain.count_returned_of_ne, Chain.carries, Chain.verdict, Chain.owed, focus, free, outside,
        traffic.status?_containedBy _ _ told]
  | answer focus free alone => simp [Chain.carries, Chain.owed, free, alone]
  | warn found => simp [Chain.carries, Chain.verdict, Chain.owed, Chain.duties_warned found]
  | _ => simp [Chain.carries, Chain.verdict, *]

end Move

/-- The work of every chain of a call is candid if all work is. -/
theorem CallLaw.candid {switchboard : Switchboard σ} {given : CallProperty σ}
    (candid : ∀ method params, (switchboard.route method params).2.Candid) :
    CallLaw switchboard (fun _ _ => true) given fun _ _ chains => ∀ chain ∈ chains, chain.Candid := by
  apply CallLaw.ofChains (fun _ _ => True) fun _ chain => chain.Candid
  · exact fun _ _ _ => trivial
  · exact fun _ method params => candid method params
  · exact fun _ _ candid move => move.candid candid
  · rintro traffic left caller method chain facts parts - - - candid withdrawal
    cases withdrawal with
    | vanish => simp
    | detach =>
        rw [List.forall_mem_singleton]
        exact candid

end LedgerService
