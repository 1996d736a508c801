import LedgerService.Proofs.Traffic.Slots

/-!
# Admission

A gate by itself, with any work behind it. An attendance accompanies the traffic through the gate and notes for every
request its work, how many others were inside when it came, whether it was let in, and whether it has come out again; it
goes along with every event that can happen to the traffic (`Attendance.step?_traffic`). `Attendance.Tallies` compares
the numbers of the gate with these notes. Every event keeps it, whichever way a request ends, so it holds after every
run (`Attendance.gate_of_run`).

What a caller hears is not enough to tell whether the gate has refused the request: the work behind the gate may itself
answer that a gate is full, as it does where a gate lies behind another one (`Attendance.told_full_by_work`). And the
numbers of the gate are compared between the steps of the tasks, not halfway through the two changes of one step.
-/

namespace LedgerService

variable {σ : Type}

/-- How far a request has come. -/
inductive Standing where
  /-- It has not come to the gate. -/
  | coming
  /-- The gate has let it in, and it has not come out. -/
  | inside
  | refused
  /-- It has come out of the gate, with its ending. -/
  | out (ending : Ending)

/-- The work may end in this way, depending on what it finds in its surroundings. -/
inductive Work.MayEnd : Work σ → Ending → Prop where
  | done (ending : Ending) : MayEnd (.done ending) ending
  | pause {duration rest ending} (later : MayEnd rest ending) : MayEnd (.pause duration rest) ending
  | consult {change next ending} (surroundings : σ) (later : MayEnd (next surroundings) ending) :
      MayEnd (.consult change next) ending

/-- The answer that a gate is full. -/
def Ending.isBacklogFull : Ending → Bool
  | .answered (.error (.backlogFull ..)) => true
  | _ => false

namespace Outcome

/-- The caller was told that a gate is full. -/
def isBacklogFull : Outcome → Bool
  | .ended ending => ending.isBacklogFull
  | .withdrawn => false

/-- The caller went away. -/
def isWithdrawn : Outcome → Bool
  | .ended _ => false
  | .withdrawn => true

end Outcome

/-- A request to a gate. -/
structure GateVisit (σ : Type) where
  caller : String
  /-- The work that is asked for. -/
  work : Work σ
  /-- The number of requests inside when this one came to the gate. -/
  met : Option Nat
  standing : Standing

namespace GateVisit

/-- The gate has let the request in, and it has not come out. -/
def isInside (visit : GateVisit σ) : Bool :=
  match visit.standing with
  | .inside => true
  | _ => false

/-- The gate has turned the request away. -/
def isRefused (visit : GateVisit σ) : Bool :=
  match visit.standing with
  | .refused => true
  | _ => false

/-- The visit after a step of its task, from one focus to another. -/
def turn (visit : GateVisit σ) (inside : Nat) : Focus σ → Focus σ → GateVisit σ
  | .entering (_ :: _) _, .leaving _ => { visit with met := some inside, standing := .refused }
  | .entering (_ :: _) _, _ => { visit with met := some inside, standing := .inside }
  | .leaving ending, _ => { visit with standing := .out ending }
  | _, _ => visit

end GateVisit

/-- What can happen at a gate. -/
inductive GateEvent (σ : Type) where
  /-- A caller comes with some work. -/
  | request (caller : String) (work : Work σ)
  | advance (chain : Nat)
  /-- A caller gives the request up. -/
  | drop (caller : String)
  | elapse (instant : Nat)
  /-- The surroundings change by themselves. -/
  | disturb (surroundings : σ)

/-- The traffic through a gate after an event, or none if the event cannot happen now. -/
def Traffic.atGate? (traffic : Traffic σ) : GateEvent σ → Option (Traffic σ)
  | .request caller work => traffic.step? (.arrive caller [.gate 0] work)
  | .advance index => traffic.step? (.advance index)
  | .drop caller => traffic.step? (.withdraw caller)
  | .elapse instant => traffic.step? (.elapse instant)
  | .disturb surroundings => some { traffic with surroundings }

/-- Traffic through a gate, and the requests that it consists of. -/
structure Attendance (σ : Type) where
  traffic : Traffic σ
  /-- For each chain its request. -/
  visits : List (GateVisit σ)
  /-- The requests that are gone, the latest one first. -/
  past : List (GateVisit σ)

namespace Attendance

/-- A gate before any request. -/
def start (resource : String) (limit : UInt64) (meters : Option GateMeters) (surroundings : σ) : Attendance σ :=
  ⟨.idle surroundings [.idle resource limit meters] [], [], []⟩

/-- The number of requests inside. -/
def inside (attendance : Attendance σ) : Nat := attendance.visits.countP GateVisit.isInside

/-- The number of requests turned away. -/
def refusals (attendance : Attendance σ) : Nat := (attendance.visits ++ attendance.past).countP GateVisit.isRefused

/-- The number of requests turned away whose callers have not been told so, and may never be. -/
def untold (attendance : Attendance σ) : Nat :=
  attendance.visits.countP GateVisit.isRefused +
    (attendance.past.zip attendance.traffic.outcomes).countP fun (visit, told) =>
      visit.isRefused && told.2.isWithdrawn

/-- Notes what has become of the request at a position. -/
def note (attendance : Attendance σ) (index : Nat) (visits gone : List (GateVisit σ)) (traffic : Traffic σ) :
    Attendance σ :=
  ⟨traffic, attendance.visits.take index ++ visits ++ attendance.visits.drop (index + 1), gone ++ attendance.past⟩

/-- Notes an event that leads to the given traffic. -/
def account (attendance : Attendance σ) (event : GateEvent σ) (traffic : Traffic σ) : Attendance σ :=
  match event with
  | .request caller work =>
    { attendance with traffic, visits := attendance.visits ++ [⟨caller, work, none, .coming⟩] }
  | .advance index =>
    match attendance.traffic.chains[index]?, attendance.visits[index]? with
    | some chain, some visit =>
      match (attendance.traffic.advanceChain chain).2 with
      | some after => attendance.note index [visit.turn attendance.inside chain.focus after.focus] [] traffic
      | none => attendance.note index [] [visit] traffic
    | _, _ => { attendance with traffic }
  | .drop caller =>
    match attendance.traffic.chains.findIdx? fun chain => chain.caller == some caller with
    | some index => attendance.note index [] attendance.visits[index]?.toList traffic
    | none => { attendance with traffic }
  | _ => { attendance with traffic }

/-- The attendance after an event, or none if the event cannot happen now. -/
def step? (attendance : Attendance σ) (event : GateEvent σ) : Option (Attendance σ) :=
  (attendance.traffic.atGate? event).map (attendance.account event)

/-- The attendance after events that happen one after the other. -/
def run? (attendance : Attendance σ) : List (GateEvent σ) → Option (Attendance σ)
  | [] => some attendance
  | event :: events => do (← attendance.step? event).run? events

@[simp]
theorem account_traffic (attendance : Attendance σ) (event : GateEvent σ) (traffic : Traffic σ) :
    (attendance.account event traffic).traffic = traffic := by
  unfold account
  repeat' split
  all_goals rfl

/-- An attendance goes along with the events that can happen to the traffic, and with no others. -/
theorem step?_traffic (attendance : Attendance σ) (event : GateEvent σ) :
    (attendance.step? event).map Attendance.traffic = attendance.traffic.atGate? event := by
  simp [step?, Function.comp_def]

end Attendance

/--
The task of a request that has come so far; a gate takes so many requests. What is left of the work ends in no other
way than the work may.
-/
inductive GateVisit.Fits (resource : String) (limit : UInt64) : GateVisit σ → Chain σ → Prop where
  | coming {caller work} :
      Fits resource limit ⟨caller, work, none, .coming⟩ ⟨some caller, [], [], .entering [.gate 0] work⟩
  | entering {caller work met rest} (room : met < limit.toNat)
      (left : ∀ ending, rest.MayEnd ending → work.MayEnd ending) :
      Fits resource limit ⟨caller, work, some met, .inside⟩ ⟨some caller, [], [.leave 0], .entering [] rest⟩
  | asleep {caller work met wakeAt rest} (room : met < limit.toNat)
      (left : ∀ ending, rest.MayEnd ending → work.MayEnd ending) :
      Fits resource limit ⟨caller, work, some met, .inside⟩ ⟨some caller, [], [.leave 0], .asleep wakeAt rest⟩
  | leaving {caller work met ending} (room : met < limit.toNat) (ended : work.MayEnd ending) :
      Fits resource limit ⟨caller, work, some met, .inside⟩ ⟨some caller, [], [.leave 0], .leaving ending⟩
  | out {caller work met ending} (room : met < limit.toNat) (ended : work.MayEnd ending) :
      Fits resource limit ⟨caller, work, some met, .out ending⟩ ⟨some caller, [], [], .leaving ending⟩
  | refused {caller work} :
      Fits resource limit ⟨caller, work, some limit.toNat, .refused⟩
        ⟨some caller, [], [], .leaving (.answered (.error (.backlogFull resource limit)))⟩

/-- What a caller was told about a request that has come so far. -/
inductive GateVisit.Closed (resource : String) (limit : UInt64) : GateVisit σ → String × Outcome → Prop where
  | dropped {visit : GateVisit σ} : Closed resource limit visit (visit.caller, .withdrawn)
  | answered {caller work met ending} (ended : work.MayEnd ending) :
      Closed resource limit ⟨caller, work, met, .out ending⟩ (caller, .ended ending)
  | refused {caller work met} :
      Closed resource limit ⟨caller, work, met, .refused⟩
        (caller, .ended (.answered (.error (.backlogFull resource limit))))

/-- The request was turned away exactly if it met as many others as the gate takes. -/
def GateVisit.Judged (limit : UInt64) (visit : GateVisit σ) : Prop :=
  match visit.standing with
  | .coming => visit.met = none
  | .refused => visit.met = some limit.toNat
  | _ => ∃ met, visit.met = some met ∧ met < limit.toNat

theorem GateVisit.Judged.isRefused_iff {limit : UInt64} {visit : GateVisit σ} (judged : visit.Judged limit) :
    visit.isRefused = true ↔ visit.met = some limit.toNat := by
  rcases visit with ⟨caller, work, met, standing⟩
  cases standing with
  | coming =>
      cases judged
      simp [isRefused]
  | refused => simpa [isRefused, Judged] using judged
  | inside =>
      rcases judged with ⟨_, rfl, room⟩
      simp [isRefused, Nat.ne_of_lt room]
  | out ending =>
      rcases judged with ⟨_, rfl, room⟩
      simp [isRefused, Nat.ne_of_lt room]

/-- Where the work itself does not answer so, only a caller whose request was turned away is told of a full gate. -/
theorem GateVisit.Closed.isBacklogFull_eq {resource : String} {limit : UInt64} {visit : GateVisit σ}
    {told : String × Outcome} (closed : visit.Closed resource limit told)
    (modest : ∀ ending, visit.work.MayEnd ending → ending.isBacklogFull = false) :
    told.2.isBacklogFull = (visit.isRefused && !told.2.isWithdrawn) := by
  cases closed with
  | dropped => exact (Bool.and_false _).symm
  | answered ended => exact modest _ ended
  | refused => rfl

/-- Where the work itself does not answer so, the callers turned away are those told that a gate is full, and others. -/
theorem GateVisit.countP_isRefused {resource : String} {limit : UInt64} {visits : List (GateVisit σ)}
    {outcomes : List (String × Outcome)} (closed : List.Forall₂ (GateVisit.Closed resource limit) visits outcomes)
    (modest : ∀ visit ∈ visits, ∀ ending, visit.work.MayEnd ending → ending.isBacklogFull = false) :
    visits.countP GateVisit.isRefused = outcomes.countP (fun told => told.2.isBacklogFull) +
      (visits.zip outcomes).countP fun (visit, told) => visit.isRefused && told.2.isWithdrawn := by
  induction closed with
  | nil => rfl
  | @cons visit told _ _ first others ih =>
      rw [List.forall_mem_cons] at modest
      simp only [List.zip_cons_cons, List.countP_cons, ih modest.2, first.isBacklogFull_eq modest.1]
      cases visit.isRefused <;> cases told.2.isWithdrawn <;> simp <;> omega

theorem GateVisit.Fits.judged {resource : String} {limit : UInt64} {visit : GateVisit σ} {chain : Chain σ}
    (fits : visit.Fits resource limit chain) : visit.Judged limit := by
  cases fits <;> simp_all [Judged]

/-- A request has one task, which holds a place exactly while the request is inside. -/
theorem GateVisit.Fits.task {resource : String} {limit : UInt64} {visit : GateVisit σ} {chain : Chain σ}
    (fits : visit.Fits resource limit chain) :
    chain.waits = [] ∧ chain.caller = some visit.caller ∧
      chain.duties = if visit.isInside then [.leave 0] else [] := by
  cases fits <;> exact ⟨rfl, rfl, rfl⟩

/-- Between two steps of its task, a request is inside exactly while its work is going on. -/
theorem GateVisit.Fits.isAtWork {resource : String} {limit : UInt64} {visit : GateVisit σ} {chain : Chain σ}
    (fits : visit.Fits resource limit chain) (resting : chain.isResting = true) : chain.isAtWork = visit.isInside := by
  cases fits <;> first | rfl | cases resting

namespace Attendance

/-- The gate's numbers are those of the requests noted. -/
structure Tallies (resource : String) (limit : UInt64) (attendance : Attendance σ) (gate : Gate) : Prop where
  gates : attendance.traffic.gates = [gate]
  design : gate.resource = resource ∧ gate.limit = limit
  holds : gate.Holds attendance.inside
  rejections : gate.rejections = attendance.refusals
  visits : List.Forall₂ (GateVisit.Fits resource limit) attendance.visits attendance.traffic.chains
  past : List.Forall₂ (GateVisit.Closed resource limit) attendance.past attendance.traffic.outcomes
  judged : ∀ visit ∈ attendance.past, visit.Judged limit

namespace Tallies

variable {resource : String} {limit : UInt64} {attendance next : Attendance σ} {gate : Gate}

theorem start (resource : String) (limit : UInt64) (meters : Option GateMeters) (surroundings : σ) :
    (Attendance.start resource limit meters surroundings).Tallies resource limit (.idle resource limit meters) :=
  ⟨rfl, ⟨rfl, rfl⟩, Gate.Holds.idle resource limit meters, rfl, .nil, .nil, List.forall_mem_nil _⟩

/-- What one request does to the gate and to its own task leaves the numbers right, if it is right by itself. -/
theorem note (tallies : attendance.Tallies resource limit gate) {index : Nat} {visit : GateVisit σ}
    (there : attendance.visits[index]? = some visit) {left : Traffic σ} {changed : Gate}
    {chains : List (Chain σ)} {visits gone : List (GateVisit σ)}
    {closed : List (String × Outcome)} (same : left.chains = attendance.traffic.chains)
    (gates : left.gates = [changed]) (design : changed.resource = resource ∧ changed.limit = limit)
    (holds : ∀ others, gate.Holds ([visit].countP GateVisit.isInside + others) →
      changed.Holds (visits.countP GateVisit.isInside + others))
    (rejections : changed.rejections + [visit].countP GateVisit.isRefused =
      gate.rejections + (visits ++ gone).countP GateVisit.isRefused)
    (fits : List.Forall₂ (GateVisit.Fits resource limit) visits chains)
    (outcomes : left.outcomes = closed ++ attendance.traffic.outcomes)
    (closes : List.Forall₂ (GateVisit.Closed resource limit) gone closed)
    (judged : ∀ visit ∈ gone, visit.Judged limit) :
    (attendance.note index visits gone (left.replaceChain index chains)).Tallies resource limit changed := by
  have split : attendance.visits =
      attendance.visits.take index ++ ([visit] ++ attendance.visits.drop (index + 1)) :=
    eq_take_append_cons_drop there
  have counted : ∀ counts : GateVisit σ → Bool, attendance.visits.countP counts =
      [visit].countP counts + ((attendance.visits.take index).countP counts +
        (attendance.visits.drop (index + 1)).countP counts) := by
    intro counts
    conv_lhs => rw [split]
    rw [List.countP_append, List.countP_append, Nat.add_left_comm]
  refine ⟨gates, design, ?_, ?_, ?_, ?_, ?_⟩
  · have before := tallies.holds
    rw [inside, counted] at before
    simpa [inside, Attendance.note, List.countP_append, Nat.add_left_comm, Nat.add_assoc] using holds _ before
  · have before := tallies.rejections
    simp only [refusals, Attendance.note, List.countP_append] at before rejections ⊢
    rw [counted] at before
    omega
  · simp only [Attendance.note, Traffic.replaceChain, same]
    apply List.rel_append
    · apply List.rel_append
      · exact List.forall₂_take index tallies.visits
      · exact fits
    · exact List.forall₂_drop (index + 1) tallies.visits
  · simp only [Attendance.note, Traffic.replaceChain, outcomes]
    exact List.rel_append closes tallies.past
  · intro one member
    rcases List.mem_append.mp member with fresh | earlier
    · exact judged one fresh
    · exact tallies.judged one earlier

/-- A step of a task that the gate does not notice. -/
theorem stay (tallies : attendance.Tallies resource limit gate) {index : Nat} {visit : GateVisit σ}
    (there : attendance.visits[index]? = some visit) {left : Traffic σ} {chain : Chain σ}
    (same : left.chains = attendance.traffic.chains) (gates : left.gates = attendance.traffic.gates)
    (outcomes : left.outcomes = attendance.traffic.outcomes) (fits : visit.Fits resource limit chain) :
    (attendance.note index [visit] [] (left.replaceChain index [chain])).Tallies resource limit gate := by
  refine tallies.note there same (gates.trans tallies.gates) tallies.design ?_ ?_ (.cons fits .nil)
    (outcomes.trans (List.nil_append _).symm) .nil (List.forall_mem_nil _)
  · intro others before
    exact before
  · simp

/-- A request that is not inside goes away, and with it its task. -/
theorem close (tallies : attendance.Tallies resource limit gate) {index : Nat} {visit : GateVisit σ}
    (there : attendance.visits[index]? = some visit) {left : Traffic σ} {told : String × Outcome}
    (same : left.chains = attendance.traffic.chains) (gates : left.gates = attendance.traffic.gates)
    (outcomes : left.outcomes = told :: attendance.traffic.outcomes) (outside : visit.isInside = false)
    (judged : visit.Judged limit) (closed : visit.Closed resource limit told) :
    (attendance.note index [] [visit] (left.replaceChain index [])).Tallies resource limit gate := by
  refine tallies.note there same (gates.trans tallies.gates) tallies.design ?_ ?_ .nil outcomes (.cons closed .nil)
    (List.forall_mem_singleton.mpr judged)
  · intro others before
    simpa [outside] using before
  · simp

theorem fits (tallies : attendance.Tallies resource limit gate) {index : Nat} {chain : Chain σ}
    (found : attendance.traffic.chains[index]? = some chain) :
    ∃ visit, attendance.visits[index]? = some visit ∧ visit.Fits resource limit chain := by
  rcases List.getElem?_eq_some_iff.mp found with ⟨bound, rfl⟩
  have bound' : index < attendance.visits.length := tallies.visits.length_eq ▸ bound
  exact ⟨_, List.getElem?_eq_getElem bound', tallies.visits.get bound' bound⟩

theorem gates_adjust (tallies : attendance.Tallies resource limit gate) (change : Gate → Gate) :
    (attendance.traffic.adjustGate 0 change).gates = [change gate] := by
  simp [Traffic.adjustGate, tallies.gates]

/-- A request meets a full gate, and as many others as the gate takes. -/
theorem refuse (tallies : attendance.Tallies resource limit gate) (full : gate.isFull = true) {index : Nat}
    {caller : String} {work : Work σ} (there : attendance.visits[index]? = some ⟨caller, work, none, .coming⟩) :
    (attendance.note index [⟨caller, work, some attendance.inside, .refused⟩] []
      ((attendance.traffic.adjustGate 0 Gate.turnAway).replaceChain index
        [⟨some caller, [], [], .leaving (.answered (.error gate.refusal))⟩])).Tallies resource limit
      gate.turnAway := by
  have met : attendance.inside = limit.toNat := by
    have below := tallies.holds.withinLimit
    have reached : gate.limit.toNat ≤ gate.inFlight.toNat := by
      simpa [Gate.isFull, UInt64.le_iff_toNat_le] using full
    rw [tallies.holds.inFlight] at reached
    rw [← tallies.design.2]
    omega
  have told : (⟨caller, work, some attendance.inside, .refused⟩ : GateVisit σ).Fits resource limit
      (⟨some caller, [], [], .leaving (.answered (.error gate.refusal))⟩ : Chain σ) := by
    rw [met, Gate.refusal, tallies.design.1, tallies.design.2]
    exact .refused
  refine tallies.note there rfl (tallies.gates_adjust _) tallies.design ?_ ?_ (.cons told .nil) rfl .nil
    (List.forall_mem_nil _)
  · intro others before
    exact before.turnAway
  · simp [Gate.turnAway, GateVisit.isRefused]

theorem letIn (tallies : attendance.Tallies resource limit gate) (room : gate.isFull = false) {index : Nat}
    {caller : String} {work : Work σ} (there : attendance.visits[index]? = some ⟨caller, work, none, .coming⟩) :
    (attendance.note index [⟨caller, work, some attendance.inside, .inside⟩] []
      ((attendance.traffic.adjustGate 0 Gate.letIn).replaceChain index
        [⟨some caller, [], [.leave 0], .entering [] work⟩])).Tallies resource limit gate.letIn := by
  have entered := tallies.holds.letIn room
  have below : attendance.inside < limit.toNat := by
    have bound := entered.withinLimit
    rw [← tallies.design.2]
    exact bound
  have begun : (⟨caller, work, some attendance.inside, .inside⟩ : GateVisit σ).Fits resource limit
      (⟨some caller, [], [.leave 0], .entering [] work⟩ : Chain σ) := .entering below fun _ => id
  refine tallies.note there rfl (tallies.gates_adjust _) tallies.design ?_ ?_ (.cons begun .nil) rfl .nil
    (List.forall_mem_nil _)
  · intro others before
    simpa [GateVisit.isInside, Nat.add_comm] using before.letIn room
  · simp [Gate.letIn, Gate.countIn, Gate.moveGauge, GateVisit.isRefused]

theorem release_of_holds {others : Nat} (holds : gate.Holds (1 + others)) : gate.release.Holds others := by
  rw [Nat.add_comm] at holds
  exact holds.release

/-- The cases are those of a task of a request; work that has begun takes one of its steps. -/
theorem advance (tallies : attendance.Tallies resource limit gate) {index : Nat}
    (happened : attendance.step? (.advance index) = some next) :
    ∃ changed, next.Tallies resource limit changed := by
  simp only [step?, Traffic.atGate?, Traffic.step?, Option.bind_eq_bind, Option.map_eq_some_iff,
    Option.bind_eq_some_iff] at happened
  rcases happened with ⟨-, ⟨chain, found, ⟨⟩, -, ⟨⟩⟩, rfl⟩
  rcases tallies.fits found with ⟨visit, there, fits⟩
  have judged := fits.judged
  simp only [account, found, there]
  cases fits with
  | coming =>
      have known : attendance.traffic.gates[0]? = some gate := by simp [tallies.gates]
      cases full : gate.isFull with
      | true =>
          refine ⟨gate.turnAway, ?_⟩
          simp only [Traffic.advanceChain, Traffic.enter, known, full, if_true]
          exact tallies.refuse full there
      | false =>
          refine ⟨gate.letIn, ?_⟩
          simp only [Traffic.advanceChain, Traffic.enter, known, full, Bool.false_eq_true, if_false]
          exact tallies.letIn full there
  | @entering caller work met rest room left =>
      refine ⟨gate, ?_⟩
      cases rest with
      | done ending => exact tallies.stay there rfl rfl rfl (.leaving room (left ending (.done ending)))
      | pause duration rest =>
          exact tallies.stay there rfl rfl rfl (.asleep room fun ending later => left ending (.pause later))
      | consult change next =>
          exact tallies.stay there rfl rfl rfl (.entering room fun ending later => left ending (.consult _ later))
  | asleep room left => exact ⟨gate, tallies.stay there rfl rfl rfl (.entering room left)⟩
  | leaving room ended =>
      refine ⟨gate.release, ?_⟩
      simp only [Traffic.advanceChain, Traffic.leave]
      refine tallies.note there rfl (tallies.gates_adjust Gate.release) tallies.design ?_ ?_
        (.cons (.out room ended) .nil) rfl .nil (List.forall_mem_nil _)
      · intro others before
        simpa [GateVisit.turn, GateVisit.isInside] using release_of_holds before
      · simp [Gate.release, Gate.countOut, Gate.moveGauge, GateVisit.turn, GateVisit.isRefused]
  | out room ended => exact ⟨gate, tallies.close there rfl rfl rfl rfl judged (.answered ended)⟩
  | refused => exact ⟨gate, tallies.close there rfl rfl rfl rfl judged .refused⟩

/-- A request that is given up leaves no task behind, and no place at the gate. -/
theorem drop (tallies : attendance.Tallies resource limit gate) {caller : String}
    (happened : attendance.step? (.drop caller) = some next) : ∃ changed, next.Tallies resource limit changed := by
  simp only [step?, Traffic.atGate?, Traffic.step?, Option.bind_eq_bind, Option.map_eq_some_iff,
    Option.bind_eq_some_iff] at happened
  rcases happened with ⟨-, ⟨index, first, chain, found, ⟨⟩⟩, rfl⟩
  rcases tallies.fits found with ⟨visit, there, fits⟩
  rcases fits.task with ⟨alone, waiting, duties⟩
  simp only [account, first, there, Option.toList_some, Traffic.withdrawChain, alone, waiting, List.getLast?_nil,
    Traffic.abandon_replaceChain, Traffic.report_replaceChain]
  cases within : visit.isInside with
  | true =>
      rw [within, if_pos rfl] at duties
      rw [duties]
      refine ⟨gate.release, ?_⟩
      refine tallies.note there rfl (tallies.gates_adjust Gate.release) tallies.design ?_ ?_ .nil rfl
        (.cons .dropped .nil) (List.forall_mem_singleton.mpr fits.judged)
      · intro others before
        have held : gate.Holds (1 + others) := by simpa [within] using before
        simpa using release_of_holds held
      · simp [Gate.release, Gate.countOut, Gate.moveGauge]
  | false =>
      rw [within, if_neg Bool.false_ne_true] at duties
      rw [duties]
      exact ⟨gate, tallies.close there rfl rfl rfl within fits.judged .dropped⟩

theorem of_step (tallies : attendance.Tallies resource limit gate) {event : GateEvent σ}
    (happened : attendance.step? event = some next) : ∃ changed, next.Tallies resource limit changed := by
  cases event with
  | request caller work =>
      rcases Option.some.inj happened with rfl
      refine ⟨gate, tallies.gates, tallies.design, ?_, ?_, ?_, tallies.past, tallies.judged⟩
      · simpa [inside, account, GateVisit.isInside] using tallies.holds
      · simpa [refusals, account, GateVisit.isRefused] using tallies.rejections
      · exact List.rel_append tallies.visits (.cons .coming .nil)
  | advance index => exact tallies.advance happened
  | drop caller => exact tallies.drop happened
  | elapse instant =>
      simp only [step?, Traffic.atGate?, Traffic.step?, Option.bind_eq_bind, Option.map_eq_some_iff,
        Option.bind_eq_some_iff] at happened
      rcases happened with ⟨-, ⟨⟨⟩, -, ⟨⟩⟩, rfl⟩
      exact ⟨gate, tallies.gates, tallies.design, tallies.holds, tallies.rejections, tallies.visits, tallies.past,
        tallies.judged⟩
  | disturb surroundings =>
      rcases Option.some.inj happened with rfl
      exact ⟨gate, tallies.gates, tallies.design, tallies.holds, tallies.rejections, tallies.visits, tallies.past,
        tallies.judged⟩

theorem of_run (tallies : attendance.Tallies resource limit gate) {events : List (GateEvent σ)}
    (run : attendance.run? events = some next) : ∃ changed, next.Tallies resource limit changed := by
  induction events generalizing attendance gate with
  | nil =>
      rcases Option.some.inj run with rfl
      exact ⟨gate, tallies⟩
  | cons event events ih =>
      rcases Option.bind_eq_some_iff.mp run with ⟨middle, happened, rest⟩
      rcases tallies.of_step happened with ⟨changed, kept⟩
      exact ih kept rest

/-- Between two steps of the tasks, the requests inside are those whose work is going on. -/
theorem inside_eq (tallies : attendance.Tallies resource limit gate)
    (resting : attendance.traffic.isResting = true) :
    attendance.inside = attendance.traffic.chains.countP Chain.isAtWork := by
  rw [inside]
  have fits := tallies.visits
  rw [Traffic.isResting, List.all_eq_true] at resting
  generalize attendance.visits = visits, attendance.traffic.chains = chains at fits resting
  induction fits with
  | nil => rfl
  | cons first others ih =>
      rw [List.forall_mem_cons] at resting
      simp only [List.countP_cons, ih resting.2, first.isAtWork resting.1]

theorem judged_all (tallies : attendance.Tallies resource limit gate) :
    ∀ visit ∈ attendance.visits ++ attendance.past, visit.Judged limit := by
  intro visit member
  rcases List.mem_append.mp member with present | gone
  · rcases List.mem_iff_getElem.mp present with ⟨index, bound, rfl⟩
    exact (tallies.visits.get bound (tallies.visits.length_eq ▸ bound)).judged
  · exact tallies.judged visit gone

theorem isFull_eq (tallies : attendance.Tallies resource limit gate) :
    gate.isFull = decide (gate.inFlight = limit) := by
  have below := tallies.holds.withinLimit
  rw [← tallies.holds.inFlight, ← UInt64.le_iff_toNat_le] at below
  rw [← tallies.design.2, Gate.isFull, decide_eq_decide]
  constructor
  · exact UInt64.le_antisymm below
  · intro same
    exact UInt64.le_of_eq same.symm

/-- Where the work itself does not answer so, callers are told that the gate is full just if they met a full gate. -/
theorem told_iff (tallies : attendance.Tallies resource limit gate)
    (modest : ∀ visit ∈ attendance.past, ∀ ending, visit.work.MayEnd ending → ending.isBacklogFull = false) :
    List.Forall₂ (fun visit told => told.2.isWithdrawn = false →
      (told.2.isBacklogFull = true ↔ visit.met = some limit.toNat)) attendance.past attendance.traffic.outcomes := by
  have known : ∀ visit ∈ attendance.past,
      visit.Judged limit ∧ ∀ ending, visit.work.MayEnd ending → ending.isBacklogFull = false :=
    fun visit mem => ⟨tallies.judged visit mem, modest visit mem⟩
  apply ((List.forall₂_and_left _ _).mpr ⟨known, tallies.past⟩).imp
  rintro visit told ⟨⟨judged, modest⟩, closed⟩ stays
  rw [closed.isBacklogFull_eq modest, stays, Bool.not_false, Bool.and_true, judged.isRefused_iff]

/-- Where the work itself does not answer so, the answers that the gate is full are the refusals that have been told. -/
theorem rejections_eq (tallies : attendance.Tallies resource limit gate)
    (modest : ∀ visit ∈ attendance.past, ∀ ending, visit.work.MayEnd ending → ending.isBacklogFull = false) :
    gate.rejections = attendance.traffic.outcomes.countP (fun told => told.2.isBacklogFull) + attendance.untold := by
  rw [tallies.rejections, refusals, List.countP_append, GateVisit.countP_isRefused tallies.past modest, untold]
  omega

/-- What a request finds that has come to the gate. -/
theorem step_coming (tallies : attendance.Tallies resource limit gate) {index : Nat} {caller : String} {work : Work σ}
    (found : attendance.traffic.chains[index]? = some ⟨some caller, [], [], .entering [.gate 0] work⟩) :
    attendance.traffic.step? (.advance index) = some
      (if gate.inFlight = limit then
        { attendance.traffic with
          gates := [gate.turnAway]
          chains := attendance.traffic.chains.set index
            ⟨some caller, [], [], .leaving (.answered (.error (.backlogFull resource limit)))⟩ }
      else
        { attendance.traffic with
          gates := [gate.letIn]
          chains := attendance.traffic.chains.set index ⟨some caller, [], [.leave 0], .entering [] work⟩ }) := by
  have known : attendance.traffic.gates[0]? = some gate := by simp [tallies.gates]
  have bound := (List.getElem?_eq_some_iff.mp found).1
  have replaced : ∀ (left : Traffic σ) (chain : Chain σ), left.chains = attendance.traffic.chains →
      left.replaceChain index [chain] = { left with chains := attendance.traffic.chains.set index chain } := by
    intro left chain same
    simp [Traffic.replaceChain, same, List.set_eq_take_append_cons_drop, bound]
  simp only [Traffic.step?, found, Option.bind_eq_bind, Option.bind_some, Chain.canAdvance, guard_true,
    Traffic.advanceChain, Traffic.enter, known, tallies.isFull_eq]
  by_cases full : gate.inFlight = limit
  · simp [full, replaced, Traffic.adjustGate, tallies.gates, Gate.refusal, tallies.design]
  · simp [full, replaced, Traffic.adjustGate, tallies.gates]

end Tallies

/--
In every state that a gate with any limit, in any surroundings and with any work behind it can come to: the requests
inside are counted by the gate and by its gauge, are never more than the limit, and between two steps of the tasks are
those whose work is going on; the refusals are counted, too. A request that came to the gate was refused exactly if it
met as many others as the gate takes. A caller was told an ending of the very work that was asked for, or that the gate
was full if the gate has refused the request, unless the request was given up. A request that comes to a full gate next
goes no further, and changes nothing but the count of refusals. And where no work itself answers that a gate is full,
the callers that were told so are those whose requests met as many others as the gate takes, and the count of refusals
is the number of these answers, but for refused requests whose callers are still to be told or went away before.
-/
theorem gate_of_run {resource : String} {limit : UInt64} {meters : Option GateMeters} {surroundings : σ}
    {events : List (GateEvent σ)} {attendance : Attendance σ}
    (run : (start resource limit meters surroundings).run? events = some attendance) :
    ∃ gate, attendance.traffic.gates = [gate] ∧
      gate.inFlight.toNat = attendance.inside ∧ attendance.inside ≤ limit.toNat ∧ gate.gauge = attendance.inside ∧
      gate.rejections = attendance.refusals ∧
      (attendance.inside = 0 → gate.inFlight = 0) ∧
      (attendance.traffic.isResting = true →
        attendance.inside = attendance.traffic.chains.countP Chain.isAtWork) ∧
      (∀ visit ∈ attendance.visits ++ attendance.past, ∀ met, visit.met = some met →
        (visit.isRefused = true ↔ met = limit.toNat)) ∧
      List.Forall₂ (GateVisit.Closed resource limit) attendance.past attendance.traffic.outcomes ∧
      ((∀ visit ∈ attendance.past, ∀ ending, visit.work.MayEnd ending → ending.isBacklogFull = false) →
        List.Forall₂ (fun visit told => told.2.isWithdrawn = false →
          (told.2.isBacklogFull = true ↔ visit.met = some limit.toNat)) attendance.past attendance.traffic.outcomes ∧
        gate.rejections =
          attendance.traffic.outcomes.countP (fun told => told.2.isBacklogFull) + attendance.untold) ∧
      ∀ index caller work, attendance.traffic.chains[index]? = some ⟨some caller, [], [], .entering [.gate 0] work⟩ →
        attendance.traffic.step? (.advance index) = some
          (if gate.inFlight = limit then
            { attendance.traffic with
              gates := [gate.turnAway]
              chains := attendance.traffic.chains.set index
                ⟨some caller, [], [], .leaving (.answered (.error (.backlogFull resource limit)))⟩ }
          else
            { attendance.traffic with
              gates := [gate.letIn]
              chains := attendance.traffic.chains.set index
                ⟨some caller, [], [.leave 0], .entering [] work⟩ }) := by
  rcases (Tallies.start resource limit meters surroundings).of_run run with ⟨gate, tallies⟩
  refine ⟨gate, tallies.gates, tallies.holds.inFlight, ?_, tallies.holds.gauge, tallies.rejections, ?_,
    tallies.inside_eq, ?_, tallies.past, fun modest => ⟨tallies.told_iff modest, tallies.rejections_eq modest⟩, ?_⟩
  · rw [← tallies.design.2]
    exact tallies.holds.withinLimit
  · intro nobody
    apply UInt64.toNat_inj.mp
    rw [tallies.holds.inFlight, nobody]
    rfl
  · intro visit member met known
    rw [(tallies.judged_all visit member).isRefused_iff, known, Option.some.injEq]
  · intro index caller work found
    exact tallies.step_coming found

/-- One request is at work behind a gate that takes no more, and another one has been told so. -/
def oneTurnedAway : List (GateEvent Unit) :=
  [.request "first" (.pause ⟨5⟩ (.done (.panicked none))), .request "second" (.reply (.ok .null)), .advance 0,
    .advance 0, .advance 1, .advance 1]

/-- The work of the second request answers with nothing of the kind, so it was the gate that was full. -/
theorem gate_of_oneTurnedAway :
    ∃ attendance, (start "gate" 1 none ()).run? oneTurnedAway = some attendance ∧ ∃ gate,
      attendance.traffic.gates = [gate] ∧ gate.inFlight.toNat = 1 ∧ gate.gauge = 1 ∧ gate.rejections = 1 ∧
      attendance.traffic.outcomes.countP (fun told => told.2.isBacklogFull) = 1 ∧
      attendance.past.map GateVisit.met = [some 1] := by
  refine ⟨_, rfl, ?_⟩
  have run : (start "gate" 1 none ()).run? oneTurnedAway = some _ := rfl
  rcases gate_of_run run with ⟨gate, gates, inFlight, -, gauge, rejections, -, -, -, -, plain, -⟩
  have modest : ∀ ending, (Work.reply (.ok .null) : Work Unit).MayEnd ending → ending.isBacklogFull = false := by
    rintro _ ⟨⟩
    rfl
  rcases plain (List.forall_mem_singleton.mpr modest) with ⟨told, counted⟩
  have met := (List.forall₂_cons.mp told).1 rfl
  refine ⟨gate, gates, inFlight, gauge, rejections, ?_, ?_⟩
  · exact counted.symm.trans rejections
  · exact congrArg ([·]) (met.mp rfl)

/-- A request whose own work answers in the words of the gate. -/
def fullInside : List (GateEvent Unit) :=
  .request "first" (.reply (.error (.backlogFull "gate" 1))) :: List.replicate 4 (.advance 0)

/--
A caller may be told that a gate is full though the gate has room: a request that meets nobody is let in, and its work
answers so. Nothing is refused, and no refusal is counted. And halfway through letting a request in, the gauge does not
show what the gate counts.
-/
theorem told_full_by_work :
    (∃ attendance, (start "gate" 1 none ()).run? fullInside = some attendance ∧
      attendance.traffic.outcomes = [("first", .ended (.answered (.error (.backlogFull "gate" 1))))] ∧
      attendance.past.map GateVisit.met = [some 0] ∧ attendance.refusals = 0 ∧
      attendance.traffic.gates = [.idle "gate" 1 none]) ∧
    (Gate.idle "gate" 1 none).letIn = (Gate.idle "gate" 1 none).countIn.moveGauge 1 ∧
    (Gate.idle "gate" 1 none).countIn.gauge ≠ (Gate.idle "gate" 1 none).countIn.inFlight.toNat :=
  ⟨⟨_, rfl, rfl, rfl, rfl, rfl⟩, rfl, by decide⟩

end Attendance

end LedgerService
