import LedgerService.Proofs.Traffic.Errand
import LedgerService.Proofs.Traffic.Settling

/-!
# Mirrors

Whatever governors are around it, the work of a request goes on as it does without them. `Errand.Mirrors` compares an
errand with a bare one, on which the caller waits for the same work and nothing lies between the two: both are as far
with the work, at the same instant and in the same surroundings. What the work does next is done by both, and all else
concerns the governors alone (`Errand.Mirrors.of_step`). So the work is begun once and is never stopped, and on a
punctual clock it ends when and how it ends without governors (`Errand.Mirrors.of_run`).
-/

namespace LedgerService

variable {σ : Type}

/-- What a task does, as if all layers lay behind it. -/
def Focus.inside : Focus σ → Focus σ
  | .entering _ work => .entering [] work
  | focus => focus

/-- Time passes or the surroundings change, whatever becomes of the requests. -/
def SwitchboardEvent.isAmbient : SwitchboardEvent σ → Bool
  | .elapse _ | .disturb _ => true
  | _ => false

/-- The work of the chain has not ended. -/
def Chain.Going (chain : Chain σ) : Prop := ∀ ending, chain.focus ≠ .leaving ending

theorem Chain.work_mem_pending {chain : Chain σ} : .work ∈ chain.pending ↔ chain.Going := by
  unfold pending Going
  cases chain.focus with
  | leaving ending => simp [posts]
  | entering layers work => simp
  | asleep wakeAt rest => simp

namespace Traffic

variable {traffic : Traffic σ}

theorem alone_eq {caller : String} {focus : Focus σ} (chains : traffic.chains = [⟨some caller, [], [], focus⟩]) :
    traffic.alone caller focus = traffic := by
  rw [alone, ← chains]

variable (traffic) (chain : Chain σ) {ending : Ending}

@[simp]
theorem discharge_surroundings (duty : Duty) :
    (traffic.discharge ending duty).surroundings = traffic.surroundings := by
  cases duty with
  | leave gate => rfl
  | record endpoint => cases labelled : ending.status? <;> simp [discharge, labelled]

theorem surroundings_leave (ending : Ending) : (traffic.leave chain ending).1.surroundings = traffic.surroundings := by
  unfold leave
  split
  · exact traffic.discharge_surroundings _
  · rfl
  · cases waiting : chain.caller <;> rfl

/-- The work has nothing more to tell once it has ended. -/
theorem not_reported_of_leaving (focus : chain.focus = .leaving ending) (result : Ending) :
    (.work, result) ∉ traffic.advanceReports chain := by
  unfold advanceReports
  rw [focus]
  split
  · contradiction
  · simp
  · simp
  · exact List.not_mem_nil

theorem leaving_of_leaving (focus : chain.focus = .leaving ending) :
    ∀ part ∈ (traffic.advanceChain chain).2.toList, ¬part.Going := by
  intro part mem going
  rw [advanceChain, focus] at mem
  simp only [leave] at mem
  split at mem
  · rcases List.mem_singleton.mp mem with rfl
    exact going ending focus
  · rcases List.mem_singleton.mp mem with rfl
    exact going _ rfl
  · exact List.not_mem_nil mem

/-- Where there are no gates, a layer leaves the work behind it as it is. -/
theorem advanceChain_of_layer (nothing : traffic.gates = []) {layer : Layer} {layers : List Layer} {work : Work σ}
    (focus : chain.focus = .entering (layer :: layers) work) :
    (traffic.advanceChain chain).1.surroundings = traffic.surroundings ∧ traffic.advanceReports chain = [] ∧
      ∀ part ∈ (traffic.advanceChain chain).2.toList, part.focus = .entering layers work := by
  cases layer with
  | gate index => simp [advanceChain, enter, advanceReports, focus, nothing]
  | governor index =>
      cases found : traffic.governors[index]? <;> simp [advanceChain, enter, advanceReports, focus, found]
  | sample endpoint => simp [advanceChain, enter, advanceReports, focus]

end Traffic

namespace Errand

/-- The bare errand is as far with the work as the other one. -/
structure Mirrors (errand bare : Errand σ) : Prop where
  now : bare.traffic.now = errand.traffic.now
  surroundings : bare.traffic.surroundings = errand.traffic.surroundings
  working : ∀ chain ∈ errand.traffic.chains, chain.Going →
    bare.traffic.chains = [⟨some bare.times.caller, [], [], chain.focus.inside⟩]
  finished : ∀ instant ending, errand.times.Tells .work instant ending → bare.traffic.chains = []
  ended : ∀ instant ending, errand.times.Tells .work instant ending ↔
    bare.times.Tells (.caller bare.times.caller) instant ending

/--
The bare errand can follow the other one to where it is after some events, on a punctual clock and while the same
happens around them.
-/
def Follows (bare : Errand σ) (events : List (SwitchboardEvent σ)) (errand : Errand σ) : Prop :=
  ∃ more bare', bare.isPunctual more = true ∧ bare.run? more = some bare' ∧
    more.filter SwitchboardEvent.isAmbient = events.filter SwitchboardEvent.isAmbient ∧ errand.Mirrors bare'

namespace Mirrors

variable {errand next bare : Errand σ} {event : SwitchboardEvent σ} {governors : List Governor} {layers : List Layer}
  {caller : String} {arrival : Nat}

theorem start (governors : List Governor) (layers : List Layer) (now : Nat) (surroundings : σ) (caller : String)
    (work : Work σ) :
    (Errand.start governors layers now surroundings caller work).Mirrors
      (Errand.start [] [] now surroundings caller work) := by
  refine ⟨rfl, rfl, ?_, ?_, ?_⟩
  · simp [Errand.start, Focus.inside]
  · simp [Errand.start, CallTimes.Tells]
  · simp [Errand.start, CallTimes.Tells]

/-- An event that does not concern the work. -/
theorem stay (mirrors : errand.Mirrors bare) {index : Nat} {chain : Chain σ} {facts : List CallFact}
    {reports : List (Post × Ending)} {left : Traffic σ} {parts : List (Chain σ)}
    (found : errand.traffic.chains[index]? = some chain) (chains : left.chains = errand.traffic.chains)
    (now : left.now = errand.traffic.now) (surroundings : left.surroundings = errand.traffic.surroundings)
    (silent : ∀ ending, (.work, ending) ∉ reports)
    (same : ∀ part ∈ parts, part.Going → chain.Going ∧ part.focus.inside = chain.focus.inside) :
    (errand.note index facts reports left parts).Mirrors bare := by
  have told : ∀ instant ending, (errand.note index facts reports left parts).times.Tells .work instant ending ↔
      errand.times.Tells .work instant ending := by
    intro instant ending
    simp [note, CallTimes.tells_note, silent]
  refine ⟨mirrors.now.trans now.symm, mirrors.surroundings.trans surroundings.symm, ?_, ?_, ?_⟩
  · intro part mem going
    rcases Traffic.replaceChain_split found chains parts with ⟨before, after, split, parted⟩
    have working := mirrors.working
    simp only [split, List.forall_mem_append, List.forall_mem_cons] at working
    simp only [note, parted, List.mem_append] at mem
    rcases mem with early | new | late
    · exact working.1 part early going
    · rcases same part new going with ⟨went, focus⟩
      rw [focus]
      exact working.2.1 went
    · exact working.2.2 part late going
  · intro instant ending ended
    exact mirrors.finished instant ending ((told instant ending).mp ended)
  · intro instant ending
    rw [told]
    exact mirrors.ended instant ending

section

variable (mirrors : errand.Mirrors bare) (tracks : errand.Tracks governors layers caller arrival)
  (distinct : (Post.route layers caller).Nodup) {index : Nat} {chain : Chain σ}
  (found : errand.traffic.chains[index]? = some chain)

include mirrors tracks distinct found

/-- The work takes a step, on both errands. -/
theorem go (bare' : Errand σ) {facts : List CallFact} {reports : List (Post × Ending)} {left : Traffic σ}
    {parts : List (Chain σ)} (going : chain.Going) (chains : left.chains = errand.traffic.chains)
    (waiting : bare'.times.caller = bare.times.caller) (now : bare'.traffic.now = left.now)
    (surroundings : bare'.traffic.surroundings = left.surroundings)
    (working : ∀ part ∈ parts, part.Going →
      bare'.traffic.chains = [⟨some bare.times.caller, [], [], part.focus.inside⟩])
    (finished : ∀ ending, (.work, ending) ∈ reports → bare'.traffic.chains = [])
    (told : ∀ instant ending, bare'.times.Tells (.caller bare.times.caller) instant ending ↔
      ((.work, ending) ∈ reports ∧ instant = errand.traffic.now) ∨
        bare.times.Tells (.caller bare.times.caller) instant ending) :
    (errand.note index facts reports left parts).Mirrors bare' := by
  have mine := List.mem_of_getElem? found
  have pending := Chain.work_mem_pending.mpr going
  rcases Traffic.replaceChain_split found chains parts with ⟨before, after, split, parted⟩
  -- The work is done in one chain only.
  have others : ∀ other ∈ before ++ after, ¬other.Going := by
    have course := tracks.course
    rw [split] at course
    intro other mem goes
    exact course.not_mem_pending distinct pending other mem (Chain.work_mem_pending.mpr goes)
  refine ⟨now, surroundings, ?_, ?_, ?_⟩
  · intro part mem goes
    simp only [note, parted, List.mem_append] at mem
    rw [waiting]
    rcases mem with early | new | late
    · exact absurd goes (others part (List.mem_append_left _ early))
    · exact working part new goes
    · exact absurd goes (others part (List.mem_append_right _ late))
  · intro instant ending ended
    rcases CallTimes.tells_note.mp ended with ⟨reported, -⟩ | earlier
    · exact finished ending reported
    · exact absurd earlier (tracks.course.not_tells distinct mine pending instant ending)
  · intro instant ending
    rw [waiting, told, ← mirrors.ended]
    exact CallTimes.tells_note

/-- The work takes a step that is not the last one. -/
theorem go_on (going : chain.Going) {facts : List CallFact} {left before : Traffic σ} {focus : Focus σ}
    (stepped : bare.traffic.step? (.advance 0) = some (before.alone bare.times.caller focus))
    (silent : bare.traffic.reports (.advance 0) = []) (inside : focus.inside = focus)
    (chains : left.chains = errand.traffic.chains) (now : before.now = left.now)
    (surroundings : before.surroundings = left.surroundings) :
    bare.Follows [.advance index] (errand.note index facts [] left [{ chain with focus }]) := by
  have urgent : bare.isPunctual [.advance 0] = true := bare.isPunctual_of_isUrgent (by simp [SwitchboardEvent.isUrgent])
  refine ⟨[.advance 0], bare.account (.advance 0) (before.alone bare.times.caller focus), urgent, ?_, rfl, ?_⟩
  · simp [run?, step?, Traffic.proceed?, stepped]
  · apply mirrors.go tracks distinct found _ going chains
    · rfl
    · exact now
    · exact surroundings
    · simp [account, Traffic.alone, inside]
    · simp
    · simp [account, silent, CallTimes.tells_note]

/-- A pause of the work is over. -/
theorem wake {wakeAt : Nat} {rest : Work σ} (focus : chain.focus = .asleep wakeAt rest)
    (due : wakeAt ≤ errand.traffic.now) {facts : List CallFact} :
    bare.Follows [.advance index]
      (errand.note index facts [] errand.traffic [{ chain with focus := .entering [] rest }]) := by
  have going : chain.Going := by simp [Chain.Going, focus]
  have alone := mirrors.working chain (List.mem_of_getElem? found) going
  simp only [focus, Focus.inside] at alone
  have stepped := bare.traffic.step_alone_asleep bare.times.caller (mirrors.now.symm ▸ due) rest
  rw [Traffic.alone_eq alone] at stepped
  apply mirrors.go_on tracks distinct found going stepped _ rfl rfl mirrors.now mirrors.surroundings
  simp [Traffic.reports, Traffic.advanceReports, alone]

theorem pause {duration : Duration} {rest : Work σ} (focus : chain.focus = .entering [] (.pause duration rest))
    {facts : List CallFact} :
    bare.Follows [.advance index] (errand.note index facts [] errand.traffic
      [{ chain with focus := .asleep (errand.traffic.now + duration.nanoseconds) rest }]) := by
  have going : chain.Going := by simp [Chain.Going, focus]
  have alone := mirrors.working chain (List.mem_of_getElem? found) going
  simp only [focus, Focus.inside] at alone
  have stepped := bare.traffic.step_alone_entering bare.times.caller (.pause duration rest)
  rw [Traffic.alone_eq alone, mirrors.now] at stepped
  apply mirrors.go_on tracks distinct found going stepped _ rfl rfl mirrors.now mirrors.surroundings
  simp [Traffic.reports, Traffic.advanceReports, alone]

theorem consult {change : σ → σ} {rest : σ → Work σ} (focus : chain.focus = .entering [] (.consult change rest))
    {facts : List CallFact} :
    bare.Follows [.advance index] (errand.note index facts []
      { errand.traffic with surroundings := change errand.traffic.surroundings }
      [{ chain with focus := .entering [] (rest errand.traffic.surroundings) }]) := by
  have going : chain.Going := by simp [Chain.Going, focus]
  have alone := mirrors.working chain (List.mem_of_getElem? found) going
  simp only [focus, Focus.inside] at alone
  have stepped := bare.traffic.step_alone_entering bare.times.caller (.consult change rest)
  rw [Traffic.alone_eq alone, mirrors.surroundings] at stepped
  apply mirrors.go_on tracks distinct found going stepped
  · simp [Traffic.reports, Traffic.advanceReports, alone]
  · rfl
  · rfl
  · exact mirrors.now
  · rfl

/-- The work ends, and the bare errand with it. -/
theorem finish {ending : Ending} (focus : chain.focus = .entering [] (.done ending)) {facts : List CallFact} :
    bare.Follows [.advance index]
      (errand.note index facts [(.work, ending)] errand.traffic [{ chain with focus := .leaving ending }]) := by
  have going : chain.Going := by simp [Chain.Going, focus]
  have alone := mirrors.working chain (List.mem_of_getElem? found) going
  simp only [focus, Focus.inside] at alone
  have first := bare.traffic.step_alone_entering bare.times.caller (.done ending)
  rw [Traffic.alone_eq alone] at first
  let told := bare.account (.advance 0) (bare.traffic.alone bare.times.caller (.leaving ending))
  have ends : bare.step? (.advance 0) = some told := by simp [step?, Traffic.proceed?, first, told]
  have second : told.traffic.proceed? (.advance 0) = _ := bare.traffic.step_alone_leaving bare.times.caller ending
  have answers : told.step? (.advance 0) = _ := congrArg (Option.map (told.account (.advance 0))) second
  have urgent : bare.isPunctual [.advance 0, .advance 0] = true :=
    bare.isPunctual_of_isUrgent (by simp [SwitchboardEvent.isUrgent])
  refine ⟨[.advance 0, .advance 0], _, urgent, by simp [run?, ends, answers]; rfl, rfl, ?_⟩
  apply mirrors.go tracks distinct found _ going rfl
  · rfl
  · exact mirrors.now
  · exact mirrors.surroundings
  · simp [Chain.Going]
  · simp [account]
  · simp [account, CallTimes.tells_note, told, Traffic.reports, Traffic.alone, Traffic.advanceReports, alone,
      mirrors.now]

/-- The innermost task of a chain goes on. -/
theorem advance (ready : chain.canAdvance errand.traffic.now = true) :
    bare.Follows [.advance index]
      (errand.note index (errand.traffic.advanceFacts chain) (errand.traffic.advanceReports chain)
        (errand.traffic.advanceChain chain).1 (errand.traffic.advanceChain chain).2.toList) := by
  have move := errand.traffic.move_of_advance chain
  cases focus : chain.focus with
  | leaving ending =>
      -- What is on its way out is no longer at work.
      refine ⟨[], bare, rfl, rfl, rfl, mirrors.stay found move.chains_eq move.now_eq ?_ ?_ ?_⟩
      · rw [Traffic.advanceChain, focus]
        exact errand.traffic.surroundings_leave chain ending
      · intro result
        exact errand.traffic.not_reported_of_leaving chain focus result
      · intro part mem going
        exact absurd going (errand.traffic.leaving_of_leaving chain focus part mem)
  | asleep wakeAt rest =>
      have due : wakeAt ≤ errand.traffic.now := by simpa [Chain.canAdvance, focus] using ready
      simpa [Traffic.advanceChain, Traffic.advanceReports, focus] using
        mirrors.wake tracks distinct found focus due
  | entering layers work =>
      rcases layers with _ | ⟨layer, layers⟩
      · cases work with
        | done ending =>
            simpa [Traffic.advanceChain, Traffic.enter, Traffic.advanceReports, focus] using
              mirrors.finish tracks distinct found focus
        | pause duration rest =>
            simpa [Traffic.advanceChain, Traffic.enter, Traffic.advanceReports, focus] using
              mirrors.pause tracks distinct found focus
        | consult change rest =>
            simpa [Traffic.advanceChain, Traffic.enter, Traffic.advanceReports, focus] using
              mirrors.consult tracks distinct found focus
      · rcases errand.traffic.advanceChain_of_layer chain tracks.gates focus with ⟨surroundings, silent, onward⟩
        refine ⟨[], bare, rfl, rfl, rfl, mirrors.stay found move.chains_eq move.now_eq surroundings ?_ ?_⟩
        · simp [silent]
        · intro part mem _
          simp [Chain.Going, focus, onward part mem, Focus.inside]

end

/-- Time passes. -/
theorem elapse (mirrors : errand.Mirrors bare) (tracks : errand.Tracks governors layers caller arrival) {instant : Nat}
    (later : errand.traffic.now ≤ instant) (punctual : errand.traffic.isPunctual (.elapse instant) = true) :
    bare.Follows [.elapse instant] { errand with traffic := { errand.traffic with now := instant } } := by
  rcases Traffic.pausesUntil_iff.mp punctual with ⟨quiet, inTime⟩
  have passed : .work ∈ Post.route layers caller := by simp [Post.route]
  have asleep : bare.traffic.due? = none ∧ ∀ deadline ∈ bare.traffic.deadline?, instant ≤ deadline := by
    rcases tracks.course.tells_or_pending passed with
      ⟨other, ending, told⟩ | ⟨chain, mem, pending⟩
    · have nothing := mirrors.finished other ending told
      simp [Traffic.due?_eq_none_iff, Traffic.deadline?, nothing]
    · have going := Chain.work_mem_pending.mp pending
      have alone := mirrors.working chain mem going
      have paused := quiet chain mem
      cases focus : chain.focus with
      | entering layers work => simp [Chain.canAdvance, focus] at paused
      | leaving ending => exact absurd focus (going ending)
      | asleep wakeAt rest =>
          have wakes : instant ≤ wakeAt := by
            apply Traffic.le_of_deadline? inTime mem
            simp [Chain.deadlines, focus]
          have early : errand.traffic.now < wakeAt := by simpa [Chain.canAdvance, focus] using paused
          simp [Traffic.due?_eq_none_iff, Traffic.deadline?, alone, focus, Focus.inside, Chain.canAdvance, Chain.Early,
            Chain.deadlines, mirrors.now, early, wakes]
  have passes := Traffic.step?_elapse (mirrors.now ▸ later : bare.traffic.now ≤ instant)
  have inTime' : bare.isPunctual [.elapse instant] = true :=
    Traffic.keepsTo_cons.mpr ⟨Traffic.isPunctual_elapse asleep.1 asleep.2, fun _ _ => rfl⟩
  refine ⟨[.elapse instant], bare.account (.elapse instant) { bare.traffic with now := instant }, inTime', ?_, rfl, ?_⟩
  · simp [run?, step?, Traffic.proceed?, passes]
  · exact ⟨rfl, mirrors.surroundings, mirrors.working, mirrors.finished, mirrors.ended⟩

/-- The bare errand follows every event. -/
theorem of_step (mirrors : errand.Mirrors bare) (tracks : errand.Tracks governors layers caller arrival)
    (distinct : (Post.route layers caller).Nodup) (punctual : errand.traffic.isPunctual event = true)
    (step : Step errand event next) : bare.Follows [event] next := by
  cases step with
  | advance found ready => exact mirrors.advance tracks distinct found ready
  | @warn index position chain wait instant found waits due reached =>
      refine ⟨[], bare, rfl, rfl, rfl, mirrors.stay found rfl rfl rfl (by simp) ?_⟩
      intro part mem going
      rcases List.mem_singleton.mp mem with rfl
      exact ⟨going, rfl⟩
  | @expire index position chain wait instant governor found waits due reached known =>
      refine ⟨[], bare, rfl, rfl, rfl, mirrors.stay found rfl rfl rfl (by simp) ?_⟩
      intro part mem going
      rcases List.mem_pair.mp mem with rfl | rfl
      · exact absurd rfl (going _)
      · exact ⟨going, rfl⟩
  | elapse later => exact mirrors.elapse tracks later punctual
  | disturb surroundings =>
      refine ⟨[.disturb surroundings], bare.account (.disturb surroundings) { bare.traffic with surroundings }, rfl,
        rfl, rfl, ?_⟩
      exact ⟨mirrors.now, rfl, mirrors.working, mirrors.finished, mirrors.ended⟩

theorem of_run (mirrors : errand.Mirrors bare) (tracks : errand.Tracks governors layers caller arrival)
    (known : ∀ index, .governor index ∈ layers → governors[index]? ≠ none)
    (distinct : (Post.route layers caller).Nodup) {events : List (SwitchboardEvent σ)}
    (punctual : errand.isPunctual events = true) (run : errand.run? events = some next) :
    bare.Follows events next := by
  induction events generalizing errand bare with
  | nil =>
      rcases Option.some.inj run with rfl
      exact ⟨[], bare, rfl, rfl, rfl, mirrors⟩
  | cons event events ih =>
      rcases Option.bind_eq_some_iff.mp run with ⟨middle, happened, rest⟩
      have step := step_of_step? happened
      rcases isPunctual_cons happened punctual with ⟨now, later⟩
      rcases mirrors.of_step tracks distinct now step with ⟨first, bare', inTime, went, around, mirrored⟩
      rcases ih mirrored (tracks.of_step known distinct now step) later rest with
        ⟨more, bare'', inTime', onward, around', last⟩
      refine ⟨first ++ more, bare'', isPunctual_append went inTime inTime', ?_, ?_, last⟩
      · rw [run?_append, went, Option.bind_some, onward]
      · rw [List.filter_append, around, around', ← List.filter_append, List.singleton_append]

end Mirrors

end Errand

end LedgerService
