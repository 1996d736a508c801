import LedgerService.Proofs.Traffic.Slots
import Mathlib.Data.List.Induction

/-!
# Journeys

How deep a call is when it has passed some layers: the duties that its innermost task has by then, and the frames
of the tasks that wait outside. `Chain.At` compares a chain with such a depth. Its tasks have the duties of the
depth, or the latest ones behind them when they are on their way out; its waits are the innermost frames, all of
them as long as the chain has a caller. `CallLaw.fits` says that every chain of a call is somewhere on the journey
through the layers of its method.
-/

namespace LedgerService

variable {σ : Type}

/-- A waiting task without its instants. -/
structure Frame where
  duties : List Duty
  governor : Nat
deriving DecidableEq, Repr

/-- The waiting task without its instants. -/
def Wait.frame (wait : Wait) : Frame := ⟨wait.duties, wait.governor⟩

/-- The duties of a task, and the frames of the tasks that wait for it, the innermost one first. -/
structure Depth where
  duties : List Duty
  frames : List Frame
deriving DecidableEq, Repr

namespace Depth

/-- One layer deeper. -/
def pass (depth : Depth) : Layer → Depth
  | .gate index => { depth with duties := .leave index :: depth.duties }
  | .governor index => ⟨[], ⟨depth.duties, index⟩ :: depth.frames⟩
  | .sample endpoint => { depth with duties := .record endpoint :: depth.duties }

/-- The depth behind some layers. -/
def behind (layers : List Layer) : Depth := layers.foldl pass ⟨[], []⟩

@[simp]
theorem behind_nil : behind [] = ⟨[], []⟩ := rfl

@[simp]
theorem behind_concat (layers : List Layer) (layer : Layer) :
    behind (layers ++ [layer]) = (behind layers).pass layer := by
  simp [behind]

/-- The tasks at a depth have one place at a gate for each time they have passed the gate. -/
theorem count_behind (passed : List Layer) (gate : Nat) :
    (behind passed).duties.count (.leave gate) +
      ((behind passed).frames.flatMap Frame.duties).count (.leave gate) = passed.count (.gate gate) := by
  induction passed using List.reverseRecOn with
  | nil => rfl
  | append_singleton passed layer ih =>
      rw [behind_concat, List.count_append, ← ih]
      cases layer with
      | gate index =>
          simp only [pass, List.count_cons, List.count_nil, beq_iff_eq, Duty.leave.injEq, Layer.gate.injEq]
          omega
      | governor index => simp [pass]
      | sample endpoint => simp [pass]

/-- What a task at a depth has to record, it has been told to on the way. -/
theorem sample_mem {passed : List Layer} {endpoint : String} (told : .record endpoint ∈ (behind passed).duties) :
    .sample endpoint ∈ passed := by
  induction passed using List.reverseRecOn with
  | nil => simp at told
  | append_singleton passed layer ih =>
      rw [behind_concat] at told
      cases layer with
      | gate index =>
          apply List.mem_append_left
          apply ih
          simpa [pass] using told
      | governor index => simp [pass] at told
      | sample other =>
          simp only [pass, List.mem_cons, Duty.record.injEq] at told
          rcases told with rfl | told
          · simp
          · exact List.mem_append_left _ (ih told)

/-- Where the task of a frame goes on is a depth on the way. -/
theorem behind_unwind {passed : List Layer} {inner outer : List Frame} {frame : Frame}
    (split : (behind passed).frames = inner ++ frame :: outer) :
    ∃ earlier, earlier <+: passed ∧ behind earlier = ⟨frame.duties, outer⟩ := by
  induction passed using List.reverseRecOn generalizing inner with
  | nil => simp at split
  | append_singleton passed layer ih =>
      have onWay : passed <+: passed ++ [layer] := List.prefix_append passed [layer]
      cases layer with
      | gate index =>
          rcases ih (by simpa [pass] using split) with ⟨earlier, short, same⟩
          exact ⟨earlier, short.trans onWay, same⟩
      | sample endpoint =>
          rcases ih (by simpa [pass] using split) with ⟨earlier, short, same⟩
          exact ⟨earlier, short.trans onWay, same⟩
      | governor index =>
          simp only [behind_concat, pass] at split
          rcases inner with _ | ⟨first, inner⟩
          · rcases List.cons.inj split with ⟨rfl, rfl⟩
            exact ⟨passed, onWay, rfl⟩
          · rcases ih (List.cons.inj split).2 with ⟨earlier, short, same⟩
            exact ⟨earlier, short.trans onWay, same⟩

end Depth

namespace Chain

/-- The chain is on its way through some layers, of which its tasks have passed some. -/
structure At (layers passed : List Layer) (chain : Chain σ) : Prop where
  onWay : passed <+: layers
  waits : chain.waits.map Wait.frame <+: (Depth.behind passed).frames
  whole : chain.caller.isSome → chain.waits.map Wait.frame = (Depth.behind passed).frames
  duties : chain.duties <:+ (Depth.behind passed).duties
  busy : (∀ ending, chain.focus ≠ .leaving ending) →
    chain.duties = (Depth.behind passed).duties ∧ passed ++ chain.ahead = layers

theorem frames_warned {chain : Chain σ} {position : Nat} {wait : Wait} (found : chain.waits[position]? = some wait) :
    (chain.waits.set position { wait with warnAt := none }).map Wait.frame = chain.waits.map Wait.frame :=
  map_set_of_same found rfl

/-- The chain is somewhere on its way through some layers. -/
def Fits (layers : List Layer) (chain : Chain σ) : Prop := ∃ passed, chain.At layers passed

end Chain

/-- The gate or governor of a layer exists. -/
def Traffic.Knows (traffic : Traffic σ) : Layer → Prop
  | .gate index => index < traffic.gates.length
  | .governor index => index < traffic.governors.length
  | .sample _ => True

namespace Chain.At

variable {traffic left : Traffic σ} {layers passed : List Layer} {chain : Chain σ} {facts : List CallFact}
  {parts : List (Chain σ)}

/-- A task that has ended lets the one outside it go on. -/
theorem outer {position : Nat} {wait : Wait} (located : chain.At layers passed)
    (found : chain.waits[position]? = some wait) (ending : Ending) : (chain.outer position wait ending).Fits layers := by
  rcases located.waits with ⟨beyond, frames⟩
  rw [Chain.waits_split found, List.map_append, List.map_cons, List.append_assoc, List.cons_append] at frames
  rcases Depth.behind_unwind frames.symm with ⟨earlier, short, same⟩
  refine ⟨earlier, short.trans located.onWay, ?_, ?_, ?_, ?_⟩
  · rw [same]
    exact List.prefix_append _ _
  · intro called
    have all := located.whole called
    rw [Chain.waits_split found, List.map_append, List.map_cons, ← frames] at all
    have nothing : beyond = [] := by simpa using all
    simp [same, nothing, Chain.outer]
  · rw [same]
    exact List.suffix_refl _
  · intro going
    exact absurd rfl (going ending)

theorem inner (located : chain.At layers passed) (position : Nat) : (chain.inner position).At layers passed where
  onWay := located.onWay
  waits := by
    rw [Chain.inner, List.map_take]
    exact (List.take_prefix _ _).trans located.waits
  whole called := by simp [Chain.inner] at called
  duties := located.duties
  busy := located.busy

/-- The layer before a chain that enters is one of the layers on its way. -/
theorem next {layer : Layer} {rest : List Layer} {work : Work σ} (located : chain.At layers passed)
    (focus : chain.focus = .entering (layer :: rest) work) :
    chain.duties = (Depth.behind passed).duties ∧ (passed ++ [layer]) ++ rest = layers ∧ layer ∈ layers := by
  rcases located.busy (by simp [focus]) with ⟨duties, way⟩
  have split : (passed ++ [layer]) ++ rest = layers := by simpa [Chain.ahead, focus] using way
  refine ⟨duties, split, ?_⟩
  simp [← split]

/-- A chain on its way out has its last duties before it. -/
theorem leaving (located : chain.At layers passed) {duties : List Duty} (fewer : duties <:+ chain.duties)
    (ending : Ending) : ({ chain with duties, focus := .leaving ending } : Chain σ).At layers passed where
  onWay := located.onWay
  waits := located.waits
  whole := located.whole
  duties := fewer.trans located.duties
  busy going := absurd rfl (going ending)

/-- A chain that passes a layer is one layer deeper. -/
theorem deeper {layer : Layer} {rest : List Layer} {waits : List Wait} {duties : List Duty} {work : Work σ}
    (way : (passed ++ [layer]) ++ rest = layers)
    (inner : duties = (Depth.behind (passed ++ [layer])).duties)
    (frames : waits.map Wait.frame <+: (Depth.behind (passed ++ [layer])).frames)
    (whole : chain.caller.isSome → waits.map Wait.frame = (Depth.behind (passed ++ [layer])).frames) :
    ({ chain with waits, duties, focus := .entering rest work } : Chain σ).Fits layers := by
  refine ⟨passed ++ [layer], ⟨rest, way⟩, frames, whole, ?_, fun _ => ⟨inner, way⟩⟩
  subst inner
  exact List.suffix_refl _

theorem staying {focus : Focus σ} (located : chain.At layers passed) (busy : ∀ ending, chain.focus ≠ .leaving ending)
    (same : Chain.ahead { chain with focus } = chain.ahead) :
    ({ chain with focus } : Chain σ).Fits layers := by
  refine ⟨passed, located.onWay, located.waits, located.whole, located.duties, fun _ => ?_⟩
  rw [same]
  exact located.busy busy

/-- A move keeps a chain on its way, if there is something to every layer. -/
theorem of_move (located : chain.At layers passed) (known : ∀ layer ∈ layers, traffic.Knows layer)
    (move : Move traffic chain facts left parts) : ∀ part ∈ parts, part.Fits layers := by
  cases move with
  | missGate focus missing =>
      have bound : _ < traffic.gates.length := known _ (located.next focus).2.2
      rw [List.getElem?_eq_none_iff] at missing
      omega
  | refuse focus found full =>
      rw [List.forall_mem_singleton]
      exact ⟨passed, located.leaving (List.suffix_refl _) _⟩
  | letIn focus found room =>
      rcases located.next focus with ⟨duties, way, -⟩
      rw [List.forall_mem_singleton]
      apply deeper way
      · simp [Depth.pass, duties]
      · simpa [Depth.pass] using located.waits
      · simpa [Depth.pass] using located.whole
  | missGovernor focus missing =>
      have bound : _ < traffic.governors.length := known _ (located.next focus).2.2
      rw [List.getElem?_eq_none_iff] at missing
      omega
  | govern focus found =>
      rcases located.next focus with ⟨duties, way, -⟩
      rw [List.forall_mem_singleton]
      apply deeper way
      · simp [Depth.pass]
      · simpa [Depth.pass, Wait.frame, duties] using located.waits
      · simpa [Depth.pass, Wait.frame, duties] using located.whole
  | sample focus =>
      rcases located.next focus with ⟨duties, way, -⟩
      rw [List.forall_mem_singleton]
      apply deeper way
      · simp [Depth.pass, duties]
      · simpa [Depth.pass] using located.waits
      · simpa [Depth.pass] using located.whole
  | finish focus =>
      rw [List.forall_mem_singleton]
      exact ⟨passed, located.leaving (List.suffix_refl _) _⟩
  | discharge focus ahead =>
      rw [List.forall_mem_singleton, focus]
      exact ⟨passed, located.leaving (ahead ▸ List.suffix_cons _ _) _⟩
  | @resume ending wait waits focus free outside =>
      rw [List.forall_mem_singleton]
      have first : chain.waits[0]? = some wait := by simp [outside]
      simpa [Chain.outer, outside] using located.outer first _
  | answer => simp
  | warn found due reached =>
      rw [List.forall_mem_singleton]
      refine ⟨passed, located.onWay, ?_, ?_, located.duties, located.busy⟩
      · rw [Chain.frames_warned found]
        exact located.waits
      · rw [Chain.frames_warned found]
        exact located.whole
  | expire found due reached known =>
      intro part mem
      rcases List.mem_pair.mp mem with rfl | rfl
      · exact located.outer found _
      · exact ⟨passed, located.inner _⟩
  | _ =>
      rw [List.forall_mem_singleton]
      exact located.staying (by simp [*]) (by simp [Chain.ahead, *])

end Chain.At

namespace Chain.At

variable {layers passed : List Layer} {chain : Chain σ}

/-- The waiting tasks of a chain have no more places at a gate than the frames of its depth. -/
theorem count_waits_le (located : chain.At layers passed) (gate : Nat) :
    (chain.waits.flatMap Wait.duties).count (.leave gate) ≤
      ((Depth.behind passed).frames.flatMap Frame.duties).count (.leave gate) := by
  have same : chain.waits.flatMap Wait.duties = (chain.waits.map Wait.frame).flatMap Frame.duties := by
    rw [List.flatMap_map]
    rfl
  rcases located.waits with ⟨beyond, frames⟩
  rw [same, ← frames, List.flatMap_append, List.count_append]
  exact Nat.le_add_right _ _

theorem places_le (located : chain.At layers passed) (gate : Nat) : chain.places gate ≤ passed.count (.gate gate) := by
  have waiting := located.count_waits_le gate
  have inner := located.duties.sublist.count_le (.leave gate)
  have depth := Depth.count_behind passed gate
  simp only [Chain.places, Chain.owed, List.count_append]
  omega

end Chain.At

namespace Chain

theorem going_of_isAtWork {chain : Chain σ} (working : chain.isAtWork = true) :
    ∀ ending, chain.focus ≠ .leaving ending := by
  intro ending focus
  simp [isAtWork, focus] at working

theorem ahead_of_isAtWork {chain : Chain σ} (working : chain.isAtWork = true) : chain.ahead = [] := by
  unfold isAtWork at working
  unfold ahead
  split at working <;> simp_all

theorem duties_of_isResting {chain : Chain σ} (resting : chain.isResting = true) (idle : chain.isAtWork = false) :
    chain.duties = [] := by
  unfold isResting at resting
  unfold isAtWork at idle
  split at resting <;> simp_all

namespace Fits

variable {route layers : List Layer} {chain : Chain σ} {gate : Nat}

theorem sample_mem (fits : chain.Fits layers) {endpoint : String} (told : .record endpoint ∈ chain.duties) :
    .sample endpoint ∈ layers := by
  rcases fits with ⟨passed, located⟩
  exact located.onWay.subset (Depth.sample_mem (located.duties.subset told))

theorem places_eq_zero (fits : chain.Fits layers) (never : .gate gate ∉ layers) : chain.places gate = 0 := by
  rcases fits with ⟨passed, located⟩
  have bound := located.places_le gate
  have none : passed.count (.gate gate) = 0 := List.count_eq_zero.mpr fun mem => never (located.onWay.subset mem)
  omega

/-- A chain whose work goes on has a place at the last gate on its way. -/
theorem places_of_isAtWork (fits : chain.Fits (route ++ [.gate gate])) (once : .gate gate ∉ route)
    (working : chain.isAtWork = true) : chain.places gate = 1 := by
  rcases fits with ⟨passed, located⟩
  have none : route.count (.gate gate) = 0 := List.count_eq_zero.mpr once
  rcases located.busy (going_of_isAtWork working) with ⟨duties, way⟩
  rw [ahead_of_isAtWork working, List.append_nil] at way
  have bound := located.places_le gate
  subst way
  simp only [Depth.behind_concat, Depth.pass] at duties
  simp only [places, owed, duties, List.count_append, List.count_cons_self, List.count_nil, none] at bound ⊢
  omega

/-- Between two steps, a chain has a place at the last gate on its way just as long as its work goes on. -/
theorem places_last (fits : chain.Fits (route ++ [.gate gate])) (once : .gate gate ∉ route)
    (resting : chain.isResting = true) : chain.places gate = if chain.isAtWork then 1 else 0 := by
  cases working : chain.isAtWork with
  | true => exact fits.places_of_isAtWork once working
  | false =>
      rcases fits with ⟨passed, located⟩
      have none : route.count (.gate gate) = 0 := List.count_eq_zero.mpr once
      have free := duties_of_isResting resting working
      have waiting := located.count_waits_le gate
      simp only [places, owed, free, List.nil_append, Bool.false_eq_true, if_false]
      rcases List.prefix_concat_iff.mp located.onWay with rfl | early
      · have depth := Depth.count_behind route gate
        simp only [Depth.behind_concat, Depth.pass] at waiting
        omega
      · have depth := Depth.count_behind passed gate
        have fewer := early.sublist.count_le (.gate gate)
        omega

end Fits

end Chain

namespace Switchboard

/-- The methods of a switchboard have places among its enclosures. -/
def Sound (switchboard : Switchboard σ) : Prop :=
  ∀ name position handler, switchboard.methods.find? name = some (position, handler) →
    position < switchboard.enclosures.length

theorem layers_of_some {switchboard : Switchboard σ} {method : String} {position : Nat} {handler : Handler σ}
    (known : switchboard.methods.find? method = some (position, handler)) :
    switchboard.layers method = rootLayers ++ methodLayers method position := by
  simp [layers, route, known]

theorem layers_of_none {switchboard : Switchboard σ} {method : String}
    (unknown : switchboard.methods.find? method = none) : switchboard.layers method = rootLayers := by
  simp [layers, route, unknown]

/-- The gate of a method is the last layer before its handler. -/
theorem methodLayers_eq_concat (name : String) (position : Nat) :
    rootLayers ++ methodLayers name position =
      (rootLayers ++ [.sample name, .governor (position + 1)]) ++ [.gate (position + 1)] :=
  rfl

/-- Every call comes to a gate last, and to this gate once. -/
theorem layers_eq_concat (switchboard : Switchboard σ) (method : String) :
    ∃ route gate, switchboard.layers method = route ++ [.gate gate] ∧ .gate gate ∉ route := by
  cases known : switchboard.methods.find? method with
  | none => exact ⟨[.governor 0], 0, layers_of_none known, by simp⟩
  | some found =>
      rw [layers_of_some known, methodLayers_eq_concat]
      exact ⟨_, _, rfl, by simp [rootLayers]⟩

/-- There is something to every layer on the way of a call. -/
theorem Sound.knows {switchboard : Switchboard σ} {traffic : Traffic σ} (sound : switchboard.Sound)
    (serves : traffic.Serves switchboard) (method : String) :
    ∀ layer ∈ switchboard.layers method, traffic.Knows layer := by
  have gates := serves.gates_length
  have governors := serves.governors_length
  cases known : switchboard.methods.find? method with
  | none => simp [layers_of_none known, rootLayers, Traffic.Knows, gates, governors]
  | some found =>
      have bound := sound method found.1 found.2 known
      simp [layers_of_some known, rootLayers, methodLayers, Traffic.Knows, gates, governors, bound]

end Switchboard

/-- Every chain of a call is somewhere on its way through the layers of the method. -/
theorem CallLaw.fits {switchboard : Switchboard σ} {given : CallProperty σ} (sound : switchboard.Sound) :
    CallLaw switchboard (fun _ _ => true) given fun _ record chains =>
      ∀ chain ∈ chains, chain.Fits (switchboard.layers record.method) := by
  apply CallLaw.ofChains (fun _ _ => True) fun method chain => chain.Fits (switchboard.layers method)
  · exact fun _ _ _ => trivial
  · intro caller method params
    refine ⟨[], List.nil_prefix, ?_, ?_, ?_, ?_⟩
    · simp
    · simp
    · simp
    · simp [Chain.ahead]
  · rintro traffic left method chain facts parts serves - ⟨passed, located⟩ move
    exact located.of_move (sound.knows serves method) move
  · rintro traffic left caller method chain facts parts - - - ⟨passed, located⟩ withdrawal
    cases withdrawal with
    | vanish alone => simp
    | detach outside =>
        rw [List.forall_mem_singleton]
        refine ⟨passed, located.onWay, ?_, ?_, located.duties, located.busy⟩
        · apply List.IsPrefix.trans _ located.waits
          simp [outside]
        · simp

end LedgerService
