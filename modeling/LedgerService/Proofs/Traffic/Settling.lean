import LedgerService.Proofs.Traffic.Clocks
import Mathlib.Data.Option.Basic

/-!
# How work settles

Work that nothing disturbs has one ending, which can be read off the work itself (`Work.settle`): pauses only take time,
and what it finds in its surroundings is what was there before, changed by nobody else. A call that is alone in the
traffic ends this way (`Traffic.ended_of_alone`).
-/

namespace LedgerService

variable {σ : Type}

/-- The ending of the work in surroundings that nobody else changes. -/
def Work.settle : Work σ → σ → Ending
  | .done ending, _ => ending
  | .pause _ rest, surroundings => rest.settle surroundings
  | .consult change next, surroundings => (next surroundings).settle (change surroundings)

theorem Work.settle_pauseFor (duration : Option Duration) (rest : Work σ) (surroundings : σ) :
    (pauseFor duration rest).settle surroundings = rest.settle surroundings := by
  cases duration <;> rfl

namespace Traffic

/-- A task goes on, or time passes while none can, and not beyond the next instant for which something is due. -/
def progresses (traffic : Traffic σ) : TrafficEvent σ → Bool
  | .advance _ => true
  | .elapse instant => traffic.pausesUntil instant
  | _ => false

/-- The only call under way is at work, and nothing waits for it but its caller. -/
def alone (traffic : Traffic σ) (caller : String) (focus : Focus σ) : Traffic σ :=
  { traffic with chains := [⟨some caller, [], [], focus⟩] }

section

variable (traffic : Traffic σ) (caller : String)

theorem step_alone_entering (work : Work σ) :
    (traffic.alone caller (.entering [] work)).step? (.advance 0) =
      match work with
      | .done ending => some (traffic.alone caller (.leaving ending))
      | .pause duration rest => some (traffic.alone caller (.asleep (traffic.now + duration.nanoseconds) rest))
      | .consult change next =>
        some ({ traffic with surroundings := change traffic.surroundings }.alone caller
          (.entering [] (next traffic.surroundings))) := by
  cases work <;> rfl

theorem step_alone_leaving (ending : Ending) :
    (traffic.alone caller (.leaving ending)).step? (.advance 0) =
      some { traffic with chains := [], outcomes := (caller, .ended ending) :: traffic.outcomes } := rfl

theorem step_alone_asleep {wakeAt : Nat} (due : wakeAt ≤ traffic.now) (rest : Work σ) :
    (traffic.alone caller (.asleep wakeAt rest)).step? (.advance 0) =
      some (traffic.alone caller (.entering [] rest)) := by
  have ready : guard (Chain.canAdvance traffic.now ⟨some caller, [], [], .asleep wakeAt rest⟩ = true) = some () :=
    (Option.guard_eq_some' _).mpr (decide_eq_true due)
  exact congrArg (· >>= fun _ => some (traffic.alone caller (.entering [] rest))) ready

theorem elapse_alone_asleep {wakeAt : Nat} (early : traffic.now < wakeAt) (rest : Work σ) :
    (traffic.alone caller (.asleep wakeAt rest)).step? (.elapse wakeAt) =
      some ({ traffic with now := wakeAt }.alone caller (.asleep wakeAt rest)) := by
  have onward : guard (traffic.now ≤ wakeAt) = some () := (Option.guard_eq_some' _).mpr (Nat.le_of_lt early)
  exact congrArg (· >>= fun _ => some ({ traffic with now := wakeAt }.alone caller (.asleep wakeAt rest))) onward

theorem pausesUntil_alone_asleep {wakeAt : Nat} (early : traffic.now < wakeAt) (rest : Work σ) :
    (traffic.alone caller (.asleep wakeAt rest)).pausesUntil wakeAt = true := by
  simp [pausesUntil_iff, alone, Chain.canAdvance, deadline?, Chain.deadlines, early]

end

theorem run?_cons {traffic next : Traffic σ} {event : TrafficEvent σ} (stepped : traffic.step? event = some next)
    (events : List (TrafficEvent σ)) : traffic.run? (event :: events) = next.run? events := by
  rw [run?, stepped]
  rfl

/-- What is under way goes on by itself until it is over. -/
def Ends (traffic : Traffic σ) (caller : String) (ending : Ending) (earlier : List (String × Outcome)) : Prop :=
  ∃ events after, traffic.keepsTo step? progresses events = true ∧ traffic.run? events = some after ∧
    after.chains = [] ∧ after.outcomes = (caller, .ended ending) :: earlier

theorem Ends.of_step {traffic next : Traffic σ} {event : TrafficEvent σ} {caller : String} {ending : Ending}
    {earlier : List (String × Outcome)} (stepped : traffic.step? event = some next)
    (progress : traffic.progresses event = true)
    (ends : next.Ends caller ending earlier) : traffic.Ends caller ending earlier := by
  rcases ends with ⟨events, after, others, run, finished⟩
  refine ⟨event :: events, after, keepsTo_cons.mpr ⟨progress, fun last same => ?_⟩, ?_, finished⟩
  · rw [stepped] at same
    exact Option.some.inj same ▸ others
  · exact (run?_cons stepped events).trans run

theorem ends_alone (traffic : Traffic σ) (work : Work σ) (caller : String) :
    (traffic.alone caller (.entering [] work)).Ends caller (work.settle traffic.surroundings) traffic.outcomes := by
  induction work generalizing traffic with
  | done ending =>
      apply Ends.of_step (traffic.step_alone_entering caller _) rfl
      apply Ends.of_step (traffic.step_alone_leaving caller ending) rfl
      exact ⟨[], _, rfl, rfl, rfl, rfl⟩
  | pause duration rest ih =>
      apply Ends.of_step (traffic.step_alone_entering caller _) rfl
      by_cases takes : 0 < duration.nanoseconds
      · have early : traffic.now < traffic.now + duration.nanoseconds := Nat.lt_add_of_pos_right takes
        apply Ends.of_step (traffic.elapse_alone_asleep caller early rest)
          (traffic.pausesUntil_alone_asleep caller early rest)
        apply Ends.of_step (step_alone_asleep _ caller (Nat.le_refl _) rest) rfl
        exact ih { traffic with now := traffic.now + duration.nanoseconds }
      · apply Ends.of_step (traffic.step_alone_asleep caller (by omega) rest) rfl
        exact ih traffic
  | consult change next ih =>
      apply Ends.of_step (traffic.step_alone_entering caller _) rfl
      exact ih traffic.surroundings { traffic with surroundings := change traffic.surroundings }

/-- A call that arrives when no other is under way ends as its work settles. -/
theorem ended_of_alone (traffic : Traffic σ) (empty : traffic.chains = []) (caller : String) (work : Work σ) :
    ∃ arrived, traffic.step? (.arrive caller [] work) = some arrived ∧
      arrived.Ends caller (work.settle traffic.surroundings) traffic.outcomes := by
  refine ⟨traffic.alone caller (.entering [] work), ?_, traffic.ends_alone work caller⟩
  rw [step?, empty, List.nil_append]
  rfl

end Traffic

end LedgerService
