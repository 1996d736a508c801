import LedgerService.Proofs.Traffic.Counters
import LedgerService.Proofs.Traffic.Progress

/-!
# Errands

A single request that passes governors on its way to its work, with no other request beside it. An errand accompanies
the traffic, with every event that no caller brings about (`Errand.step?_traffic`), and notes what happens to the request
and what is told to which post. `Errand.Tracks` is what every event keeps on a punctual clock: the request is on its
course, the governors count what is noted, and the caller is answered with what is told. Whatever is due can happen
(`Errand.proceeds`), so the request comes to an end.
-/

namespace LedgerService

variable {σ : Type}

/-- The traffic after an event that no caller brings about, or none if the event cannot happen now. -/
def Traffic.proceed? (traffic : Traffic σ) : SwitchboardEvent σ → Option (Traffic σ)
  | .advance index => traffic.step? (.advance index)
  | .warn index position => traffic.step? (.warn index position)
  | .expire index position => traffic.step? (.expire index position)
  | .elapse instant => traffic.step? (.elapse instant)
  | .disturb surroundings => some { traffic with surroundings }
  | _ => none

namespace Traffic

variable (traffic : Traffic σ) (ending : Ending)

@[simp]
theorem discharge_governors (duty : Duty) : (traffic.discharge ending duty).governors = traffic.governors := by
  cases duty with
  | leave gate => rfl
  | record endpoint => cases labelled : ending.status? <;> simp [discharge, labelled]

/-- A task that goes on is not counted by a governor. -/
theorem governors_advanceChain (chain : Chain σ) : (traffic.advanceChain chain).1.governors = traffic.governors := by
  unfold advanceChain
  cases chain.focus with
  | asleep wakeAt rest => rfl
  | leaving ending =>
      simp only [leave]
      split
      · exact traffic.discharge_governors ending _
      · rfl
      · cases chain.caller <;> rfl
  | entering layers work =>
      rcases layers with _ | ⟨layer, layers⟩
      · cases work <;> rfl
      cases layer with
      | gate index =>
          cases found : traffic.gates[index]? with
          | none => simp [enter, found]
          | some gate => cases full : gate.isFull <;> simp [enter, found, full, adjustGate]
      | governor index => cases found : traffic.governors[index]? <;> simp [enter, found]
      | sample endpoint => rfl

theorem discharge_gates (nothing : traffic.gates = []) (duty : Duty) : (traffic.discharge ending duty).gates = [] := by
  cases duty with
  | leave gate => simp [discharge, adjustGate, nothing]
  | record endpoint => cases labelled : ending.status? <;> simp [discharge, labelled, nothing]

/-- Where there are no gates, nothing is refused. -/
theorem not_refused_of_no_gates (nothing : traffic.gates = []) (chain : Chain σ) (gate : Nat) :
    .refused gate ∉ traffic.advanceFacts chain := by
  have never : ∀ part : Chain σ, .refused gate ∉ part.returned := by
    intro part
    exact part.not_mem_returned (by simp)
  rw [advanceFacts, List.mem_append, not_or]
  constructor
  · cases (traffic.advanceChain chain).2 with
    | none => exact List.not_mem_nil
    | some part => exact never part
  · split
    · simp [nothing]
    · cases chain.duties with
      | nil => exact List.not_mem_nil
      | cons duty duties => exact not_mem_noted duty _ (by simp)
    · exact List.not_mem_nil

end Traffic

namespace Move

variable {traffic left : Traffic σ} {chain : Chain σ} {facts : List CallFact} {parts : List (Chain σ)}

theorem gates_eq_nil (move : Move traffic chain facts left parts) (nothing : traffic.gates = []) : left.gates = [] := by
  cases move with
  | refuse focus found => simp [nothing] at found
  | letIn focus found => simp [nothing] at found
  | discharge => exact traffic.discharge_gates _ nothing _
  | answer => cases waiting : chain.caller <;> simp [Traffic.report, nothing]
  | _ => exact nothing

theorem governedBy {governors : List Governor} (move : Move traffic chain facts left parts)
    (governed : traffic.GovernedBy governors) : left.GovernedBy governors := by
  unfold Traffic.GovernedBy at governed ⊢
  rw [← governed]
  cases move with
  | discharge => rw [Traffic.discharge_governors]
  | answer => cases waiting : chain.caller <;> rfl
  | warn =>
      have unseen : ∀ governor : Governor, governor.warn.design = governor.design := fun _ => rfl
      exact map_modify_of_unseen unseen _ _
  | expire =>
      have unseen : ∀ governor : Governor, governor.expire.design = governor.design := fun _ => rfl
      exact map_modify_of_unseen unseen _ _
  | _ => rfl

end Move

/-- Among things with distinct keys, one alone counts. -/
theorem filterMap_eq_singleton {α β κ : Type} {key : α → κ} {function : α → Option β} {list : List α}
    (once : (list.map key).Nodup) {one : α} (mem : one ∈ list) {value : β} (known : function one = some value)
    (silent : ∀ other ∈ list, key other ≠ key one → function other = none) : list.filterMap function = [value] := by
  rcases List.append_of_mem mem with ⟨before, after, rfl⟩
  rw [List.map_append, List.map_cons, List.nodup_middle, List.nodup_cons, ← List.map_append] at once
  have others : ∀ other ∈ before ++ after, function other = none := by
    intro other there
    apply silent other
    · exact List.mem_append.mpr ((List.mem_append.mp there).imp_right (List.mem_cons_of_mem one))
    · intro same
      exact once.1 (same ▸ List.mem_map_of_mem there)
  rw [List.forall_mem_append] at others
  rw [List.filterMap_append, List.filterMap_cons, known, List.filterMap_eq_nil_iff.mpr others.1,
    List.filterMap_eq_nil_iff.mpr others.2]
  rfl

/-- Traffic that consists of one request, and what has become of the request. -/
structure Errand (σ : Type) where
  traffic : Traffic σ
  times : CallTimes
  /-- What happened to the request, the latest first. -/
  facts : List CallFact

namespace Errand

/-- A request arrives. -/
def start (governors : List Governor) (layers : List Layer) (now : Nat) (surroundings : σ) (caller : String)
    (work : Work σ) : Errand σ :=
  ⟨⟨now, surroundings, [], governors, [], [⟨some caller, [], [], .entering layers work⟩], []⟩, ⟨caller, now, []⟩, []⟩

/-- Notes an event that leads to the given traffic. -/
def account (errand : Errand σ) (event : SwitchboardEvent σ) (traffic : Traffic σ) : Errand σ :=
  ⟨traffic, errand.times.note errand.traffic.now (errand.traffic.reports event),
    (errand.traffic.turn? event).elim [] Turn.facts ++ errand.facts⟩

/-- The errand after an event, or none if the event cannot happen now. -/
def step? (errand : Errand σ) (event : SwitchboardEvent σ) : Option (Errand σ) :=
  (errand.traffic.proceed? event).map (errand.account event)

/-- The errand after events that happen one after the other. -/
def run? (errand : Errand σ) : List (SwitchboardEvent σ) → Option (Errand σ)
  | [] => some errand
  | event :: events => do (← errand.step? event).run? events

/-- An errand goes along with the events that can happen to the traffic, and with no others. -/
theorem step?_traffic (errand : Errand σ) (event : SwitchboardEvent σ) :
    (errand.step? event).map Errand.traffic = errand.traffic.proceed? event := by
  simp [step?, Function.comp_def, account]

/-- The traffic goes where the errand goes. -/
theorem foldlM_of_run? {errand later : Errand σ} {events : List (SwitchboardEvent σ)}
    (run : errand.run? events = some later) : events.foldlM Traffic.proceed? errand.traffic = some later.traffic := by
  induction events generalizing errand with
  | nil =>
      rcases Option.some.inj run with rfl
      rfl
  | cons event events ih =>
      rcases Option.bind_eq_some_iff.mp run with ⟨middle, happened, rest⟩
      have proceeds := errand.step?_traffic event
      rw [happened] at proceeds
      rw [List.foldlM_cons, ← proceeds]
      exact ih rest

/-- Time passes only while no task can go on, and stops wherever something is due. -/
def isPunctual (errand : Errand σ) (events : List (SwitchboardEvent σ)) : Bool :=
  errand.traffic.keepsTo Traffic.proceed? Traffic.isPunctual events

theorem isPunctual_cons {errand next : Errand σ} {event : SwitchboardEvent σ} {events : List (SwitchboardEvent σ)}
    (happened : errand.step? event = some next) (punctual : errand.isPunctual (event :: events) = true) :
    errand.traffic.isPunctual event = true ∧ next.isPunctual events = true := by
  rcases Traffic.keepsTo_cons.mp punctual with ⟨first, rest⟩
  have proceeds := errand.step?_traffic event
  rw [happened] at proceeds
  exact ⟨first, rest _ proceeds.symm⟩

theorem isPunctual_append {errand next : Errand σ} {events more : List (SwitchboardEvent σ)}
    (run : errand.run? events = some next) (punctual : errand.isPunctual events = true)
    (onward : next.isPunctual more = true) : errand.isPunctual (events ++ more) = true := by
  refine Traffic.keepsTo_append.mpr ⟨punctual, fun last same => ?_⟩
  rw [foldlM_of_run? run] at same
  exact Option.some.inj same ▸ onward

theorem run?_append (errand : Errand σ) (events more : List (SwitchboardEvent σ)) :
    errand.run? (events ++ more) = (errand.run? events).bind fun middle => middle.run? more := by
  induction events generalizing errand with
  | nil => rfl
  | cons first events ih => simp [run?, ih, Option.bind_assoc]

/-- What one event that concerns a chain means for the errand. -/
def note (errand : Errand σ) (index : Nat) (facts : List CallFact) (reports : List (Post × Ending)) (left : Traffic σ)
    (parts : List (Chain σ)) : Errand σ :=
  ⟨left.replaceChain index parts, errand.times.note errand.traffic.now reports, facts ++ errand.facts⟩

/-- What is due happens at once. -/
theorem isPunctual_of_isUrgent (errand : Errand σ) {events : List (SwitchboardEvent σ)}
    (urgent : ∀ event ∈ events, event.isUrgent = true) : errand.isPunctual events = true :=
  Traffic.keepsTo_of_forall fun event mem _ => Traffic.isPunctual_of_isUrgent (urgent event mem)

/-- What an event does to an errand. -/
inductive Step (errand : Errand σ) : SwitchboardEvent σ → Errand σ → Prop where
  | advance {index chain} (found : errand.traffic.chains[index]? = some chain)
      (ready : chain.canAdvance errand.traffic.now = true) :
      Step errand (.advance index)
        (errand.note index (errand.traffic.advanceFacts chain) (errand.traffic.advanceReports chain)
          (errand.traffic.advanceChain chain).1 (errand.traffic.advanceChain chain).2.toList)
  | warn {index position chain wait instant} (found : errand.traffic.chains[index]? = some chain)
      (waits : chain.waits[position]? = some wait) (due : wait.warnAt = some instant)
      (reached : instant ≤ errand.traffic.now) :
      Step errand (.warn index position)
        (errand.note index [.warned wait.governor] [] (errand.traffic.adjustGovernor wait.governor Governor.warn)
          [{ chain with waits := chain.waits.set position { wait with warnAt := none } }])
  | expire {index position chain wait instant governor} (found : errand.traffic.chains[index]? = some chain)
      (waits : chain.waits[position]? = some wait) (due : wait.expireAt = some instant)
      (reached : instant ≤ errand.traffic.now) (known : errand.traffic.governors[wait.governor]? = some governor) :
      Step errand (.expire index position)
        (errand.note index ((wait.duties.head?.bind Duty.returned).toList ++ [.expired wait.governor])
          [(.governor wait.governor, .answered (.error governor.refusal))]
          (errand.traffic.adjustGovernor wait.governor Governor.expire)
          [chain.outer position wait (.answered (.error governor.refusal)), chain.inner position])
  | elapse {instant} (later : errand.traffic.now ≤ instant) :
      Step errand (.elapse instant) { errand with traffic := { errand.traffic with now := instant } }
  | disturb (surroundings : σ) :
      Step errand (.disturb surroundings) { errand with traffic := { errand.traffic with surroundings } }

variable {errand next : Errand σ} {event : SwitchboardEvent σ}

theorem step_of_step? (happened : errand.step? event = some next) : Step errand event next := by
  rcases Option.map_eq_some_iff.mp happened with ⟨traffic, proceeds, rfl⟩
  cases event with
  | advance index =>
      simp only [Traffic.proceed?, Traffic.step?, Option.bind_eq_bind, Option.bind_eq_some_iff] at proceeds
      rcases proceeds with ⟨chain, found, ⟨⟩, ready, proceeds⟩
      rcases Option.some.inj proceeds with rfl
      simpa [account, note, Traffic.turn?, Traffic.reports, found] using
        Step.advance found ((Option.guard_eq_some' _).mp ready)
  | warn index position =>
      simp only [Traffic.proceed?, Traffic.step?, Option.bind_eq_bind, Option.bind_eq_some_iff] at proceeds
      rcases proceeds with ⟨chain, found, wait, waits, instant, due, ⟨⟩, reached, proceeds⟩
      rcases Option.some.inj proceeds with rfl
      simpa [account, note, Traffic.turn?, Traffic.reports, found, waits] using
        Step.warn found waits due ((Option.guard_eq_some' _).mp reached)
  | expire index position =>
      simp only [Traffic.proceed?, Traffic.step?, Option.bind_eq_bind, Option.bind_eq_some_iff] at proceeds
      rcases proceeds with ⟨chain, found, wait, waits, instant, due, ⟨⟩, reached, governor, known, proceeds⟩
      rcases Option.some.inj proceeds with rfl
      simpa [account, note, Traffic.turn?, Traffic.reports, found, waits, known] using
        Step.expire found waits due ((Option.guard_eq_some' _).mp reached) known
  | elapse instant =>
      simp only [Traffic.proceed?, Traffic.step?, Option.bind_eq_bind, Option.bind_eq_some_iff] at proceeds
      rcases proceeds with ⟨⟨⟩, later, proceeds⟩
      rcases Option.some.inj proceeds with rfl
      exact .elapse ((Option.guard_eq_some' _).mp later)
  | disturb surroundings =>
      rcases Option.some.inj proceeds with rfl
      exact .disturb surroundings
  | call => cases proceeds
  | withdraw => cases proceeds

/-- An urgent event moves one chain, and is a passage where no gate refuses and every governor exists. -/
theorem Step.moves (step : Step errand event next) (urgent : event.isUrgent = true) :
    ∃ index chain facts reports left parts, errand.traffic.chains[index]? = some chain ∧
      next = errand.note index facts reports left parts ∧ Move errand.traffic chain facts left parts ∧
      (errand.traffic.gates = [] →
        (∀ governor, .governor governor ∈ chain.pending → errand.traffic.governors[governor]? ≠ none) →
          Passage errand.traffic chain facts reports parts) ∧
      left.outcomes = reports.filterMap (fun report => report.1.answer? report.2) ++ errand.traffic.outcomes := by
  cases step with
  | @advance index chain found ready =>
      refine ⟨index, chain, _, _, _, _, found, rfl, errand.traffic.move_of_advance chain, ?_, ?_⟩
      · intro nothing
        exact errand.traffic.passage_of_advance chain (errand.traffic.not_refused_of_no_gates nothing chain)
      · exact errand.traffic.outcomes_advanceChain chain
  | @warn index position chain wait instant found waits due reached =>
      refine ⟨index, chain, _, _, _, _, found, rfl, .warn waits due reached, ?_, rfl⟩
      intro _ _
      exact .warn waits due reached
  | @expire index position chain wait instant governor found waits due reached known =>
      refine ⟨index, chain, _, _, _, _, found, rfl, .expire waits due reached known, ?_, rfl⟩
      intro _ _
      rw [chain.outer_returned position wait (.answered (.error governor.refusal))]
      exact .expire (Chain.calm_returned _) waits due reached known
  | elapse => cases urgent
  | disturb => cases urgent

/-- What a post has been told, it stays told. -/
theorem Step.tells (step : Step errand event next) {post : Post} {instant : Nat} {ending : Ending}
    (told : errand.times.Tells post instant ending) : next.times.Tells post instant ending := by
  cases step with
  | advance => exact CallTimes.tells_note.mpr (.inr told)
  | warn => exact CallTimes.tells_note.mpr (.inr told)
  | expire => exact CallTimes.tells_note.mpr (.inr told)
  | elapse => exact told
  | disturb => exact told

/-- Where no task waits at a governor, the governors count nothing. -/
theorem Step.governors_eq (step : Step errand event next)
    (alone : ∀ chain ∈ errand.traffic.chains, chain.waits = []) :
    next.traffic.governors = errand.traffic.governors := by
  cases step with
  | @advance index chain => exact errand.traffic.governors_advanceChain chain
  | warn found waits => simp [alone _ (List.mem_of_getElem? found)] at waits
  | expire found waits => simp [alone _ (List.mem_of_getElem? found)] at waits
  | elapse => rfl
  | disturb => rfl

/-- What the counters showed when the request arrived. -/
def shown (governors : List Governor) : CallFact → Nat
  | .warned index => governors[index]?.elim 0 Governor.warnings
  | .expired index => governors[index]?.elim 0 Governor.expirations
  | _ => 0

/-- What holds of a request on its way through some layers, from its arrival on. -/
structure Tracks (governors : List Governor) (layers : List Layer) (caller : String) (arrival : Nat)
    (errand : Errand σ) : Prop where
  times : errand.times.caller = caller ∧ errand.times.arrival = arrival
  gates : errand.traffic.gates = []
  governed : errand.traffic.GovernedBy governors
  course : Course governors (Post.route layers caller) errand.traffic.now errand.times errand.facts
    errand.traffic.chains
  counts : errand.traffic.Counts fun fact => shown governors fact + errand.facts.count fact
  outcomes : errand.traffic.outcomes = errand.times.told.filterMap fun told => told.1.answer? told.2.2

namespace Tracks

variable {governors : List Governor} {layers : List Layer} {caller : String} {arrival : Nat}

theorem start (known : ∀ index, .governor index ∈ layers → governors[index]? ≠ none) (surroundings : σ)
    (work : Work σ) :
    (Errand.start governors layers arrival surroundings caller work).Tracks governors layers caller arrival where
  times := ⟨rfl, rfl⟩
  gates := rfl
  governed := rfl
  course := Course.start known arrival caller work
  counts := by
    refine ⟨by simp [Errand.start], ?_, ?_, by simp [Errand.start, shown]⟩
    · intro index governor found
      simp only [Errand.start] at found
      simp [Errand.start, shown, found]
    · intro index governor found
      simp only [Errand.start] at found
      simp [Errand.start, shown, found]
  outcomes := rfl

/-- Every governor that a task has yet to report to exists. -/
theorem known (tracks : errand.Tracks governors layers caller arrival)
    (known : ∀ index, .governor index ∈ layers → governors[index]? ≠ none) {chain : Chain σ}
    (mem : chain ∈ errand.traffic.chains) (index : Nat) (pending : .governor index ∈ chain.pending) :
    errand.traffic.governors[index]? ≠ none := by
  have passed := known index (Post.mem_route.mp (tracks.course.mem_route mem pending))
  rcases Option.ne_none_iff_exists'.mp passed with ⟨governor, there⟩
  rcases tracks.governed.current there with ⟨current, found, -⟩
  simp [found]

theorem of_step (tracks : errand.Tracks governors layers caller arrival)
    (known : ∀ index, .governor index ∈ layers → governors[index]? ≠ none)
    (distinct : (Post.route layers caller).Nodup) (punctual : errand.traffic.isPunctual event = true)
    (step : Step errand event next) : next.Tracks governors layers caller arrival := by
  by_cases urgent : event.isUrgent = true
  · rcases step.moves urgent with ⟨index, chain, facts, reports, left, parts, found, rfl, move, passes, outcomes⟩
    have mine := List.mem_of_getElem? found
    have passage := passes tracks.gates (tracks.known known mine)
    rcases Traffic.replaceChain_split found move.chains_eq parts with ⟨before, after, split, parted⟩
    refine ⟨tracks.times, move.gates_eq_nil tracks.gates, move.governedBy tracks.governed, ?_, ?_, ?_⟩
    · have course := tracks.course
      rw [split] at course
      have now : (left.replaceChain index parts).now = errand.traffic.now := move.now_eq
      simp only [note, parted, now]
      exact course.of_passage distinct tracks.governed passage
    · apply ((tracks.counts.of_move move).replaceChain index parts).of_eq
      intro fact _ _
      simp only [note, List.count_append]
      omega
    · simp [note, Traffic.replaceChain, outcomes, tracks.outcomes, CallTimes.note, List.filterMap_map]
  · cases step with
    | elapse later =>
        rcases Traffic.pausesUntil_iff.mp punctual with ⟨quiet, inTime⟩
        refine ⟨tracks.times, tracks.gates, tracks.governed, ?_, ?_, tracks.outcomes⟩
        · apply tracks.course.elapse later quiet
          intro chain mem deadline due
          exact Traffic.le_of_deadline? inTime mem due
        · exact { tracks.counts with }
    | disturb surroundings =>
        refine ⟨tracks.times, tracks.gates, tracks.governed, tracks.course, ?_, tracks.outcomes⟩
        exact { tracks.counts with }
    | _ => exact absurd rfl urgent

theorem of_run (tracks : errand.Tracks governors layers caller arrival)
    (known : ∀ index, .governor index ∈ layers → governors[index]? ≠ none)
    (distinct : (Post.route layers caller).Nodup) {events : List (SwitchboardEvent σ)}
    (punctual : errand.isPunctual events = true) (run : errand.run? events = some next) :
    next.Tracks governors layers caller arrival := by
  induction events generalizing errand with
  | nil =>
      rcases Option.some.inj run with rfl
      exact tracks
  | cons event events ih =>
      rcases Option.bind_eq_some_iff.mp run with ⟨middle, happened, rest⟩
      rcases isPunctual_cons happened punctual with ⟨first, onward⟩
      exact ih (tracks.of_step known distinct first (step_of_step? happened)) onward rest

/-- The caller is answered once, with what is told to it. -/
theorem answered (tracks : errand.Tracks governors layers caller arrival)
    (distinct : (Post.route layers caller).Nodup) :
    (∀ instant ending, ¬errand.times.Tells (.caller caller) instant ending) ∧ errand.traffic.outcomes = [] ∨
      ∃ instant ending, errand.times.Tells (.caller caller) instant ending ∧
        errand.traffic.outcomes = [(caller, .ended ending)] := by
  have silent : ∀ told ∈ errand.times.told, told.1 ≠ .caller caller → told.1.answer? told.2.2 = none := by
    rintro ⟨post, instant, ending⟩ mem other
    cases post with
    | work => rfl
    | governor index => rfl
    | caller name =>
        have passed : .caller name ∈ Post.route layers caller :=
          tracks.course.pending.subset (List.mem_append_left _ (List.mem_map.mpr ⟨_, mem, rfl⟩))
        rw [Post.eq_of_caller_mem_route passed] at other
        exact absurd rfl other
  rw [tracks.outcomes]
  by_cases told : ∃ instant ending, errand.times.Tells (.caller caller) instant ending
  · rcases told with ⟨instant, ending, told⟩
    have once := (List.nodup_append.mp (tracks.course.nodup distinct)).1
    exact .inr ⟨instant, ending, told, filterMap_eq_singleton once told rfl silent⟩
  · simp only [not_exists] at told
    refine .inl ⟨told, List.filterMap_eq_nil_iff.mpr ?_⟩
    rintro ⟨post, instant, ending⟩ mem
    apply silent _ mem
    rintro rfl
    exact told instant ending mem

/-- When every governor on the way has been told, no task waits any more. -/
theorem waits_eq_nil (tracks : errand.Tracks governors layers caller arrival)
    (distinct : (Post.route layers caller).Nodup)
    (told : ∀ index, .governor index ∈ layers → ∃ instant ending, errand.times.Tells (.governor index) instant ending) :
    ∀ chain ∈ errand.traffic.chains, chain.waits = [] := by
  intro chain mem
  apply List.eq_nil_iff_forall_not_mem.mpr
  intro wait waiting
  have pending := Chain.mem_pending_of_waits waiting
  rcases told _ (Post.mem_route.mp (tracks.course.mem_route mem pending)) with ⟨instant, ending, told⟩
  exact tracks.course.not_tells distinct mem pending instant ending told

/-- When every governor on the way has been told, the governors count no more, whatever happens. -/
theorem governors_of_run (tracks : errand.Tracks governors layers caller arrival)
    (known : ∀ index, .governor index ∈ layers → governors[index]? ≠ none)
    (distinct : (Post.route layers caller).Nodup)
    (told : ∀ index, .governor index ∈ layers → ∃ instant ending, errand.times.Tells (.governor index) instant ending)
    {events : List (SwitchboardEvent σ)} (punctual : errand.isPunctual events = true)
    (run : errand.run? events = some next) : next.traffic.governors = errand.traffic.governors := by
  induction events generalizing errand with
  | nil =>
      rcases Option.some.inj run with rfl
      rfl
  | cons event events ih =>
      rcases Option.bind_eq_some_iff.mp run with ⟨middle, happened, rest⟩
      rcases isPunctual_cons happened punctual with ⟨first, onward⟩
      have step := step_of_step? happened
      rw [← step.governors_eq (tracks.waits_eq_nil distinct told)]
      apply ih (tracks.of_step known distinct first step) _ onward rest
      intro index passed
      rcases told index passed with ⟨instant, ending, told⟩
      exact ⟨instant, ending, step.tells told⟩

end Tracks

theorem tells_of_run {post : Post} {instant : Nat} {ending : Ending} (told : errand.times.Tells post instant ending)
    {events : List (SwitchboardEvent σ)} (run : errand.run? events = some next) :
    next.times.Tells post instant ending := by
  induction events generalizing errand with
  | nil =>
      rcases Option.some.inj run with rfl
      exact told
  | cons event events ih =>
      rcases Option.bind_eq_some_iff.mp run with ⟨middle, happened, rest⟩
      exact ih ((step_of_step? happened).tells told) rest

/-- One errand becomes the other one by itself, and on a punctual clock. -/
def Becomes (errand later : Errand σ) : Prop :=
  ∃ more, (∀ event ∈ more, event.isOwn = true) ∧ errand.isPunctual more = true ∧ errand.run? more = some later

theorem Becomes.of_step (happened : errand.step? event = some next) (own : event.isOwn = true)
    (punctual : errand.traffic.isPunctual event = true) : errand.Becomes next := by
  refine ⟨[event], ?_, Traffic.keepsTo_cons.mpr ⟨punctual, fun _ _ => rfl⟩, ?_⟩
  · simpa using own
  · simp [run?, happened]

section

variable {governors : List Governor} {layers : List Layer} {caller : String} {arrival : Nat}

/-- What is due can happen next. -/
theorem exists_step_of_due (tracks : errand.Tracks governors layers caller arrival)
    (due : errand.traffic.due? ≠ none) :
    ∃ event next, event.isUrgent = true ∧ errand.step? event = some next := by
  have known : ∀ chain ∈ errand.traffic.chains, ∀ wait ∈ chain.waits, wait.expireAt.isSome →
      ∃ governor, errand.traffic.governors[wait.governor]? = some governor := by
    intro chain mem wait waiting _
    rcases (tracks.course.waits chain mem wait waiting).known with ⟨governor, there, -⟩
    rcases tracks.governed.current there with ⟨current, found, -⟩
    exact ⟨current, found⟩
  have moves : ∃ event, event.isUrgent = true ∧ errand.traffic.proceed? event ≠ none := by
    rcases Traffic.exists_step_of_due known due with ⟨index, moves⟩ | ⟨index, position, moves⟩ | ⟨index, position, moves⟩
    · exact ⟨.advance index, rfl, moves⟩
    · exact ⟨.warn index position, rfl, moves⟩
    · exact ⟨.expire index position, rfl, moves⟩
  rcases moves with ⟨event, urgent, moves⟩
  rcases Option.ne_none_iff_exists'.mp moves with ⟨traffic, proceeds⟩
  exact ⟨event, errand.account event traffic, urgent, by rw [step?, proceeds, Option.map_some]⟩

theorem proceeds (known : ∀ index, .governor index ∈ layers → governors[index]? ≠ none)
    (distinct : (Post.route layers caller).Nodup) :
    Traffic.Proceeds (σ := σ) Errand.traffic (Tracks governors layers caller arrival) Becomes where
  refl errand := ⟨[], by simp, rfl, rfl⟩
  trans := by
    rintro errand next last ⟨events, owns, punctual, run⟩ ⟨more, owns', punctual', run'⟩
    refine ⟨events ++ more, List.forall_mem_append.mpr ⟨owns, owns'⟩, isPunctual_append run punctual punctual', ?_⟩
    rw [run?_append, run, Option.bind_some, run']
  kept := by
    rintro errand next tracks ⟨more, -, punctual, run⟩
    exact tracks.of_run known distinct punctual run
  urge := by
    intro errand tracks due
    rcases exists_step_of_due tracks due with ⟨event, next, urgent, happened⟩
    have becomes := Becomes.of_step happened (SwitchboardEvent.isOwn_of_isUrgent urgent)
      (Traffic.isPunctual_of_isUrgent urgent)
    refine ⟨next, becomes, ?_⟩
    rcases (step_of_step? happened).moves urgent with ⟨index, chain, facts, reports, left, parts, found, rfl, move, -⟩
    exact ⟨move.now_eq, move.cutExpand found⟩
  pass := by
    intro errand instant tracks settled later inTime
    have passes := Traffic.step?_elapse later
    have happened : errand.step? (.elapse instant) =
        some { errand with traffic := { errand.traffic with now := instant } } := by
      simp [step?, Traffic.proceed?, passes, account, Traffic.turn?, Traffic.reports, CallTimes.note]
    exact ⟨_, .of_step happened rfl (Traffic.isPunctual_elapse settled inTime), rfl⟩

end

end Errand

end LedgerService
