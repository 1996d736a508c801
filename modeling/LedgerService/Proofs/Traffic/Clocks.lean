import LedgerService.Traffic.Machine
import Mathlib.Data.Option.Basic

/-!
# Clocks

The clock of the traffic waits for nobody: time may pass while tasks could go on, and beyond the instants for which
something is due, as it does where there are more tasks than can go on at once. What is said of the instants at which
something happens is said of a clock that is better behaved: it stands still while a task can go on, and it stops
wherever something is due (`Traffic.pausesUntil`). That is a rule for the events of a run, one by one
(`Traffic.keepsTo`), and is asked for only where it is needed.
-/

namespace LedgerService

variable {σ ε : Type}

namespace Traffic

/-- No task can go on now. -/
def isQuiet (traffic : Traffic σ) : Bool := traffic.chains.all fun chain => !chain.canAdvance traffic.now

/-- No task can go on now, and nothing is due before an instant. -/
def pausesUntil (traffic : Traffic σ) (instant : Nat) : Bool :=
  traffic.isQuiet && traffic.deadline?.all fun deadline => decide (instant ≤ deadline)

/-- Events keep to a rule, each in the traffic to which it happens. -/
def keepsTo (next? : Traffic σ → ε → Option (Traffic σ)) (rule : Traffic σ → ε → Bool) (traffic : Traffic σ) :
    List ε → Bool
  | [] => true
  | event :: events => rule traffic event && (next? traffic event).all fun next => next.keepsTo next? rule events

theorem isQuiet_iff {traffic : Traffic σ} :
    traffic.isQuiet = true ↔ ∀ chain ∈ traffic.chains, chain.canAdvance traffic.now = false := by
  simp [isQuiet]

theorem pausesUntil_iff {traffic : Traffic σ} {instant : Nat} :
    traffic.pausesUntil instant = true ↔ (∀ chain ∈ traffic.chains, chain.canAdvance traffic.now = false) ∧
      ∀ deadline ∈ traffic.deadline?, instant ≤ deadline := by
  rw [pausesUntil, Bool.and_eq_true, isQuiet_iff, Option.all_eq_true]
  simp only [decide_eq_true_eq, Option.mem_def]

variable {next? : Traffic σ → ε → Option (Traffic σ)} {rule other : Traffic σ → ε → Bool} {traffic : Traffic σ}
  {event : ε} {events : List ε}

theorem keepsTo_cons :
    traffic.keepsTo next? rule (event :: events) = true ↔
      rule traffic event = true ∧ ∀ next, next? traffic event = some next → next.keepsTo next? rule events = true := by
  rw [keepsTo, Bool.and_eq_true, Option.all_eq_true]

/-- What has kept to a rule goes on to keep to it from where it has come to. -/
theorem keepsTo_append {more : List ε} :
    traffic.keepsTo next? rule (events ++ more) = true ↔
      traffic.keepsTo next? rule events = true ∧
        ∀ last, events.foldlM next? traffic = some last → last.keepsTo next? rule more = true := by
  induction events generalizing traffic with
  | nil => simp [keepsTo]
  | cons event events ih =>
      rw [List.cons_append, keepsTo_cons, keepsTo_cons, List.foldlM_cons, and_assoc]
      apply and_congr_right'
      cases next? traffic event with
      | none => simp
      | some next => simpa using ih

/-- A rule that no event of the run ever breaks. -/
theorem keepsTo_of_forall (kept : ∀ event ∈ events, ∀ traffic, rule traffic event = true) :
    traffic.keepsTo next? rule events = true := by
  induction events generalizing traffic with
  | nil => rfl
  | cons event events ih =>
      rw [List.forall_mem_cons] at kept
      exact keepsTo_cons.mpr ⟨kept.1 traffic, fun next _ => ih kept.2⟩

theorem keepsTo_and (one : traffic.keepsTo next? rule events = true)
    (two : traffic.keepsTo next? other events = true) :
    traffic.keepsTo next? (fun traffic event => rule traffic event && other traffic event) events = true := by
  induction events generalizing traffic with
  | nil => rfl
  | cons event events ih =>
      rcases keepsTo_cons.mp one with ⟨first, rest⟩
      rcases keepsTo_cons.mp two with ⟨first', rest'⟩
      refine keepsTo_cons.mpr ⟨by rw [first, first', Bool.and_true], fun next happened => ?_⟩
      exact ih (rest next happened) (rest' next happened)

end Traffic

end LedgerService
