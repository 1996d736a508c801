import LedgerService.Json.Value
import LedgerService.Rpc.Error

/-!
# Work

The work of answering one request, as a tree: it pauses, consults its surroundings, and in the end gives an answer
or panics. Other work may go on between any two of its steps.
-/

namespace LedgerService

/-- The end of some work. -/
inductive Ending where
  | answered (result : Except RequestError Json)
  /-- The work broke down, with a text unless what it left behind is none. -/
  | panicked (text : Option String)
deriving Repr, Inhabited

/-- Work in surroundings of type `σ`. -/
inductive Work (σ : Type) where
  | done (ending : Ending)
  | pause (duration : Duration) (rest : Work σ)
  /-- Looks at the surroundings, and changes them. -/
  | consult (change : σ → σ) (next : σ → Work σ)

namespace Work

variable {σ : Type}

/-- Work that ends with an answer at once. -/
def reply (result : Except RequestError Json) : Work σ := .done (.answered result)

/-- Work that only looks at the surroundings. -/
def look (next : σ → Work σ) : Work σ := .consult id next

/-- Pauses unless there is no time given at all. -/
def pauseFor (duration : Option Duration) (rest : Work σ) : Work σ :=
  match duration with
  | some duration => .pause duration rest
  | none => rest

end Work

/-- A handler: the work for the parameters of a request. -/
abbrev Handler (σ : Type) := Json → Work σ

/-- The end of a panic as a governor sees it: an answer that names the resource. -/
def Ending.contained (resource : String) : Ending → Ending
  | .answered result => .answered result
  | .panicked text => .answered (.error (.panicked resource (text.getD "unknown panic payload")))

/-- The label of an ending in metrics; a panic that nothing contained has none. -/
def Ending.status? : Ending → Option String
  | .answered (.ok _) => some "ok"
  | .answered (.error error) => some error.category
  | .panicked _ => none

end LedgerService
