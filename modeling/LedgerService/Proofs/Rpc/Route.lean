import LedgerService.Proofs.Rpc.Assembly
import LedgerService.Proofs.Traffic.Watches

/-!
# The way of a call

The stages of a call of a method, from the governor of all methods to the handler, with the layers ahead and the
depth at each. `Chain.Fits.stage` says that every chain of such a call stands at one of these stages.
-/

namespace LedgerService

variable {σ : Type}

/-- The frame of a task that waits at the governor of all methods. -/
def Frame.root : Frame := ⟨[], 0⟩

/-- The frame of a task that waits at the governor of a method. -/
def Frame.method (name : String) (position : Nat) : Frame := ⟨[.record name, .leave 0], position + 1⟩

open Switchboard in
/-- The stages of a call of a method: the layers ahead, and the depth. -/
inductive Stage (name : String) (position : Nat) : List Layer → Depth → Prop where
  | outside : Stage name position (rootLayers ++ methodLayers name position) ⟨[], []⟩
  | watched : Stage name position (.gate 0 :: methodLayers name position) ⟨[], [.root]⟩
  | admitted : Stage name position (methodLayers name position) ⟨[.leave 0], [.root]⟩
  | sampled : Stage name position [.governor (position + 1), .gate (position + 1)]
      ⟨[.record name, .leave 0], [.root]⟩
  | governed : Stage name position [.gate (position + 1)] ⟨[], [.method name position, .root]⟩
  | within : Stage name position [] ⟨[.leave (position + 1)], [.method name position, .root]⟩

open Switchboard in
theorem Stage.of_way {name : String} {position : Nat} {passed ahead : List Layer}
    (way : passed ++ ahead = rootLayers ++ methodLayers name position) :
    Stage name position ahead (Depth.behind passed) := by
  rcases passed with _ | ⟨first, _ | ⟨second, _ | ⟨third, _ | ⟨fourth, _ | ⟨fifth, rest⟩⟩⟩⟩⟩
  · rw [List.nil_append] at way
    rw [way]
    exact .outside
  · simp only [rootLayers, List.cons_append, List.nil_append, List.cons.injEq] at way
    rcases way with ⟨rfl, rfl⟩
    exact .watched
  · simp only [rootLayers, List.cons_append, List.nil_append, List.cons.injEq] at way
    rcases way with ⟨rfl, rfl, rfl⟩
    exact .admitted
  · simp only [rootLayers, methodLayers, List.cons_append, List.nil_append, List.cons.injEq] at way
    rcases way with ⟨rfl, rfl, rfl, rfl⟩
    exact .sampled
  · simp only [rootLayers, methodLayers, List.cons_append, List.nil_append, List.cons.injEq] at way
    rcases way with ⟨rfl, rfl, rfl, rfl, rfl⟩
    exact .governed
  · simp only [rootLayers, methodLayers, List.cons_append, List.nil_append, List.cons.injEq,
      List.append_eq_nil_iff] at way
    rcases way with ⟨rfl, rfl, rfl, rfl, rfl, rfl, rfl⟩
    exact .within

namespace Chain

/-- The chain stands at a depth, with some layers ahead unless it is on its way out. -/
structure Stands (ahead : List Layer) (depth : Depth) (chain : Chain σ) : Prop where
  waits : chain.waits.map Wait.frame <+: depth.frames
  whole : chain.caller.isSome → chain.waits.map Wait.frame = depth.frames
  duties : chain.duties <:+ depth.duties
  busy : (∀ ending, chain.focus ≠ .leaving ending) → chain.duties = depth.duties ∧ chain.ahead = ahead

variable {chain : Chain σ} {name : String} {position : Nat}

theorem Fits.stage (fits : chain.Fits (Switchboard.rootLayers ++ Switchboard.methodLayers name position)) :
    ∃ ahead depth, Stage name position ahead depth ∧ chain.Stands ahead depth := by
  rcases fits with ⟨passed, located⟩
  rcases located.onWay with ⟨ahead, way⟩
  refine ⟨ahead, Depth.behind passed, .of_way way, located.waits, located.whole, located.duties, ?_⟩
  intro going
  rcases located.busy going with ⟨duties, same⟩
  exact ⟨duties, List.append_cancel_left (same.trans way.symm)⟩

theorem Fits.frames (fits : chain.Fits (Switchboard.rootLayers ++ Switchboard.methodLayers name position)) :
    ∀ wait ∈ chain.waits, wait.frame = .method name position ∨ wait.frame = .root := by
  rcases fits.stage with ⟨ahead, depth, stage, stands⟩
  intro wait mem
  have deeper : wait.frame ∈ depth.frames := stands.waits.subset (List.mem_map_of_mem mem)
  cases stage with
  | outside => simp at deeper
  | watched => simp [List.mem_singleton.mp deeper]
  | admitted => simp [List.mem_singleton.mp deeper]
  | sampled => simp [List.mem_singleton.mp deeper]
  | governed => simpa using deeper
  | within => simpa using deeper

/-- All but the innermost wait of a chain are at the governor of all methods. -/
theorem Fits.outside (fits : chain.Fits (Switchboard.rootLayers ++ Switchboard.methodLayers name position))
    (place : Nat) : ∀ wait ∈ chain.waits.drop (place + 1), wait.frame = .root := by
  rcases fits.stage with ⟨ahead, depth, stage, stands⟩
  rcases stands.waits with ⟨beyond, frames⟩
  intro wait mem
  have deeper : wait.frame ∈ depth.frames.tail := by
    cases waits : chain.waits with
    | nil => simp [waits] at mem
    | cons first rest =>
        rw [waits, List.drop_succ_cons] at mem
        rw [← frames, waits, List.map_cons, List.cons_append, List.tail_cons]
        exact List.mem_append_left _ (List.mem_map_of_mem (List.mem_of_mem_drop mem))
  have outermost : depth.frames.tail ⊆ [.root] := by cases stage <;> simp
  exact List.mem_singleton.mp (outermost deeper)

/-- What the task at the governor of a method has yet to do, no other waiting task has. -/
theorem count_duties {waits : List Wait} {duty : Duty}
    (frames : ∀ wait ∈ waits, wait.frame = .method name position ∨ wait.frame = .root)
    (own : duty = .record name ∨ duty = .leave 0) :
    (waits.flatMap Wait.duties).count duty = (waits.map Wait.governor).count (position + 1) := by
  induction waits with
  | nil => rfl
  | cons wait waits ih =>
      rw [List.flatMap_cons, List.count_append, List.map_cons, count_cons_split _ wait.governor,
        ih fun other mem => frames other (List.mem_cons_of_mem wait mem)]
      congr 1
      rcases frames wait List.mem_cons_self with same | same
      · have duties : wait.duties = [.record name, .leave 0] := congrArg Frame.duties same
        have governor : wait.governor = position + 1 := congrArg Frame.governor same
        rcases own with rfl | rfl <;> simp [duties, governor]
      · have duties : wait.duties = [] := congrArg Frame.duties same
        have governor : wait.governor = 0 := congrArg Frame.governor same
        simp [duties, governor]

/-- The work of a method begins behind the gate of the method. -/
theorem Fits.duties_of_isAtWork
    (fits : chain.Fits (Switchboard.rootLayers ++ Switchboard.methodLayers name position))
    (working : chain.isAtWork = true) : chain.duties = [.leave (position + 1)] := by
  rcases fits.stage with ⟨ahead, depth, stage, stands⟩
  rcases stands.busy (going_of_isAtWork working) with ⟨duties, same⟩
  rw [ahead_of_isAtWork working] at same
  subst same
  cases stage
  exact duties

/-- Unless the innermost task does, the task at the governor of the method holds the place among all methods. -/
theorem Fits.places_root (fits : chain.Fits (Switchboard.rootLayers ++ Switchboard.methodLayers name position))
    (free : chain.duties.count (.leave 0) = 0) : chain.places 0 = chain.watched (position + 1) := by
  rw [places, owed, List.count_append, free, Nat.zero_add, count_duties fits.frames (.inr rfl), watched]

theorem Fits.free_of_isAtWork (fits : chain.Fits (Switchboard.rootLayers ++ Switchboard.methodLayers name position))
    (working : chain.isAtWork = true) : chain.duties.count (.leave 0) = 0 := by
  simp [fits.duties_of_isAtWork working]

theorem Fits.free_of_isResting (fits : chain.Fits (Switchboard.rootLayers ++ Switchboard.methodLayers name position))
    (resting : chain.isResting = true) : chain.duties.count (.leave 0) = 0 := by
  cases working : chain.isAtWork with
  | true => exact fits.free_of_isAtWork working
  | false => simp [duties_of_isResting resting working]

/-- The governor of the method watches a handler at work for as long as anyone waits for it. -/
theorem Fits.watched_of_isAtWork
    (fits : chain.Fits (Switchboard.rootLayers ++ Switchboard.methodLayers name position))
    (working : chain.isAtWork = true) (waiting : chain.waits ≠ []) : 0 < chain.watched (position + 1) := by
  rcases fits.stage with ⟨ahead, depth, stage, stands⟩
  rcases stands.busy (going_of_isAtWork working) with ⟨-, same⟩
  rw [ahead_of_isAtWork working] at same
  subst same
  cases stage
  rcases List.exists_cons_of_ne_nil waiting with ⟨wait, waits, first⟩
  have innermost := stands.waits
  rw [first, List.map_cons, List.cons_prefix_cons] at innermost
  have governor : wait.governor = position + 1 := congrArg Frame.governor innermost.1
  simp [watched, first, governor]

/-- Before the gate of all methods a call has nothing to be recorded, and before the gate of its method it has. -/
theorem Fits.before_gate (fits : chain.Fits (Switchboard.rootLayers ++ Switchboard.methodLayers name position))
    {index : Nat} {layers : List Layer} {work : Work σ} (focus : chain.focus = .entering (.gate index :: layers) work) :
    (index = 0 ∧ layers = Switchboard.methodLayers name position ∧ chain.owed.count (.record name) = 0) ∨
      (index = position + 1 ∧ layers = [] ∧ (chain.caller.isSome → chain.owed.count (.record name) = 1)) := by
  rcases fits.stage with ⟨ahead, depth, stage, stands⟩
  rcases stands.busy (by simp [focus]) with ⟨duties, same⟩
  have waiting : chain.waits.flatMap Wait.duties = (chain.waits.map Wait.frame).flatMap Frame.duties := by
    rw [List.flatMap_map]
    rfl
  have entering : chain.ahead = .gate index :: layers := by simp [Chain.ahead, focus]
  rw [entering] at same
  cases stage with
  | watched =>
      rcases List.cons.inj same with ⟨gate, rfl⟩
      refine .inl ⟨Layer.gate.inj gate, rfl, ?_⟩
      rw [owed, duties, waiting, List.nil_append]
      rcases List.prefix_cons_iff.mp stands.waits with none | ⟨beyond, one, nothing⟩
      · simp [none]
      · simp [one, List.prefix_nil.mp nothing, Frame.root]
  | governed =>
      rcases List.cons.inj same with ⟨gate, rfl⟩
      refine .inr ⟨Layer.gate.inj gate, rfl, fun waits => ?_⟩
      rw [owed, duties, waiting, stands.whole waits]
      simp [Frame.method, Frame.root]
  | _ => simp [Switchboard.rootLayers, Switchboard.methodLayers] at same

end Chain

end LedgerService
