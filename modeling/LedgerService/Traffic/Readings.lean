import LedgerService.Metrics.Exposition
import LedgerService.Traffic.Machine

/-!
# Readings of traffic

What the meters of gates and governors show, and how many requests to each endpoint ended in each way.
-/

namespace LedgerService

open Metrics (Sample numberText)

/-- What the meters of a gate show. -/
def Gate.readings (gate : Gate) : List Sample :=
  match gate.meters with
  | some meters =>
    [⟨meters.inFlight, [], numberText gate.gauge⟩, ⟨meters.rejections, [], numberText gate.rejections⟩]
  | none => []

/-- What the meters of a governor show. -/
def Governor.readings (governor : Governor) : List Sample :=
  match governor.meters with
  | some meters =>
    [⟨meters.warnings, [], numberText governor.warnings⟩,
      ⟨meters.expirations, [], numberText governor.expirations⟩]
  | none => []

/-- The count of one way in which requests to an endpoint ended, out of a histogram with the given name. -/
def EndpointSample.reading (histogram : String) (count : Nat) (sample : EndpointSample) : Sample :=
  ⟨histogram ++ "_count", [("endpoint", sample.endpoint), ("status", sample.status)], numberText count⟩

/-- All readings; the recorded endings stand in a histogram with the given name. -/
def Traffic.readings {σ : Type} (traffic : Traffic σ) (histogram : String) : List Sample :=
  traffic.gates.flatMap Gate.readings ++ traffic.governors.flatMap Governor.readings ++
    traffic.samples.eraseDups.map fun sample => sample.reading histogram (traffic.samples.count sample)

end LedgerService
