import LedgerService.Proofs.Traffic.Timetable
import LedgerService.Traffic.Schedule
import Mathlib.Logic.Hydra
import Mathlib.Order.RelClasses
import Mathlib.Tactic.Abel

/-!
# Progress

Traffic never gets stuck. Whatever is due can happen, and leaves a chain with less to do, or with several parts that
have less to do each (`Move.before`); so after finitely many events nothing is due, and time passes until something is.
`Traffic.Proceeds` is what this argument needs of something that traffic is a part of. `Timetable.reaches_of_run` says
that the traffic of a switchboard comes by itself, and on a punctual clock, to every later instant, with everything done
that is due by then, and with nothing forgotten that was known of the calls before.
-/

namespace LedgerService

variable {σ : Type}

namespace Work

/-- What is left of some work after its first step. -/
inductive Rest : Work σ → Work σ → Prop where
  | pause (duration : Duration) (rest : Work σ) : Rest rest (.pause duration rest)
  | consult (change : σ → σ) (next : σ → Work σ) (surroundings : σ) : Rest (next surroundings) (.consult change next)

theorem wellFounded_rest : WellFounded (Rest (σ := σ)) := by
  refine ⟨fun work => ?_⟩
  induction work with
  | done ending => exact ⟨_, nofun⟩
  | pause duration rest ih =>
      refine ⟨_, fun other less => ?_⟩
      cases less
      exact ih
  | consult change next ih =>
      refine ⟨_, fun other less => ?_⟩
      cases less with
      | consult _ _ surroundings => exact ih surroundings

/-- Less work is left, or none after some. -/
inductive Less : Option (Work σ) → Option (Work σ) → Prop where
  | ended (work : Work σ) : Less none (some work)
  | step {work rest : Work σ} (left : Rest rest work) : Less (some rest) (some work)

theorem wellFounded_less : WellFounded (Less (σ := σ)) := by
  have none : Acc Less (none : Option (Work σ)) := ⟨_, nofun⟩
  refine ⟨fun left => ?_⟩
  cases left with
  | none => exact none
  | some work =>
      induction work using wellFounded_rest.induction with
      | h work ih =>
          refine ⟨_, fun other less => ?_⟩
          cases less with
          | ended => exact none
          | step left => exact ih _ left

end Work

/-- What a waiting task has yet to do: to warn, to go on, and its duties. -/
def Wait.effort (wait : Wait) : Nat := wait.warnAt.toList.length + wait.duties.length + 1

namespace Chain

/-- The work of a chain that is not done yet. -/
def workLeft (chain : Chain σ) : Option (Work σ) :=
  match chain.focus with
  | .entering _ work | .asleep _ work => some work
  | .leaving _ => none

/-- What a chain has yet to do besides its work. -/
def effort (chain : Chain σ) : Nat :=
  chain.duties.length + (chain.waits.map Wait.effort).sum +
    match chain.focus with
    | .entering layers _ => 3 * layers.length
    | .asleep .. => 1
    | .leaving _ => 0

/-- Less work is left to the first chain, or the same and less besides. -/
def Before : Chain σ → Chain σ → Prop :=
  InvImage (Prod.Lex Work.Less (· < ·)) fun chain => (chain.workLeft, chain.effort)

theorem wellFounded_before : WellFounded (Before (σ := σ)) :=
  InvImage.wf _ (Work.wellFounded_less.prod_lex Nat.lt_wfRel.wf)

variable {part chain : Chain σ} {position : Nat} {wait : Wait}

theorem sum_effort_cut (found : chain.waits[position]? = some wait) :
    (chain.waits.map Wait.effort).sum = ((chain.waits.take position).map Wait.effort).sum + wait.effort +
      ((chain.waits.drop (position + 1)).map Wait.effort).sum := by
  conv_lhs => rw [waits_split found]
  simp [Nat.add_assoc]

theorem sum_effort_warned {instant : Nat} (found : chain.waits[position]? = some wait)
    (due : wait.warnAt = some instant) :
    ((chain.waits.set position { wait with warnAt := none }).map Wait.effort).sum <
      (chain.waits.map Wait.effort).sum := by
  have bound := (List.getElem?_eq_some_iff.mp found).1
  rw [sum_effort_cut found, List.set_eq_take_append_cons_drop, if_pos bound]
  simp [Wait.effort, due]
  omega

theorem Before.of_work (less : Work.Less part.workLeft chain.workLeft) : part.Before chain := .left _ _ less

theorem Before.of_effort (same : part.workLeft = chain.workLeft) (less : part.effort < chain.effort) :
    part.Before chain := by
  change Prod.Lex Work.Less (· < ·) (part.workLeft, part.effort) (chain.workLeft, chain.effort)
  rw [same]
  exact .right _ less

end Chain

/-- A chain that is on its way out has less to do than one that is not. -/
theorem Chain.Before.of_leaving {part chain : Chain σ} {ending : Ending} (focus : part.focus = .leaving ending)
    (going : ∀ ending, chain.focus ≠ .leaving ending) : part.Before chain := by
  apply of_work
  cases before : chain.focus with
  | leaving ending => exact absurd before (going ending)
  | _ => simpa [workLeft, focus, before] using Work.Less.ended _

/-- What a task does leaves its chain with less to do, in one part or in several. -/
theorem Move.before {traffic left : Traffic σ} {chain : Chain σ} {facts : List CallFact} {parts : List (Chain σ)}
    (move : Move traffic chain facts left parts) : ∀ part ∈ parts, part.Before chain := by
  cases move with
  | refuse focus found full =>
      rw [List.forall_mem_singleton]
      exact .of_leaving rfl (by simp [focus])
  | finish focus =>
      rw [List.forall_mem_singleton]
      exact .of_leaving rfl (by simp [focus])
  | pause focus =>
      rw [List.forall_mem_singleton]
      apply Chain.Before.of_work
      simpa [Chain.workLeft, focus] using Work.Less.step (.pause _ _)
  | consult focus =>
      rw [List.forall_mem_singleton]
      apply Chain.Before.of_work
      simpa [Chain.workLeft, focus] using Work.Less.step (.consult _ _ _)
  | answer => simp
  | @govern index layers work governor focus found =>
      rw [List.forall_mem_singleton]
      apply Chain.Before.of_effort
      · simp [Chain.workLeft, focus]
      · have few : (governor.warnAt? traffic.now).toList.length ≤ 1 := Option.length_toList_le
        simp only [Chain.effort, Wait.effort, focus, List.map_cons, List.sum_cons, List.length_cons, List.length_nil]
        omega
  | resume focus free outside =>
      rw [List.forall_mem_singleton]
      apply Chain.Before.of_effort
      · simp [Chain.workLeft, focus]
      · simp only [Chain.effort, Wait.effort, focus, free, outside, List.map_cons, List.sum_cons, List.length_nil]
        omega
  | warn found due reached =>
      rw [List.forall_mem_singleton]
      apply Chain.Before.of_effort
      · simp [Chain.workLeft]
      · have less := Chain.sum_effort_warned found due
        simp only [Chain.effort]
        omega
  | @expire position wait _ governor found due reached known =>
      have split := Chain.sum_effort_cut found
      have outer : (chain.outer position wait (.answered (.error governor.refusal))).Before chain := by
        by_cases going : ∀ ending, chain.focus ≠ .leaving ending
        · exact .of_leaving rfl going
        · rcases not_forall_not.mp going with ⟨ending, focus⟩
          apply Chain.Before.of_effort
          · simp [Chain.workLeft, Chain.outer, focus]
          · simp only [Chain.effort, Chain.outer, Wait.effort, focus] at split ⊢
            omega
      have inner : (chain.inner position).Before chain := by
        apply Chain.Before.of_effort
        · simp [Chain.workLeft, Chain.inner]
        · simp only [Chain.effort, Chain.inner, Wait.effort] at split ⊢
          omega
      intro part mem
      rcases List.mem_pair.mp mem with rfl | rfl
      · exact outer
      · exact inner
  | _ =>
      rw [List.forall_mem_singleton]
      apply Chain.Before.of_effort
      · simp [Chain.workLeft, *]
      · simp only [Chain.effort, List.length_cons, List.length_nil, *]
        omega

theorem forall_mem_zipIdx_iff {α : Type} {elements : List α} (holds : α → Prop) :
    (∀ numbered ∈ elements.zipIdx, holds numbered.1) ↔ ∀ element ∈ elements, holds element := by
  conv_rhs => rw [← List.zipIdx_map_fst 0 elements]
  rw [List.forall_mem_map]

/-- A task goes on, is warned or gives up. -/
def SwitchboardEvent.isUrgent : SwitchboardEvent σ → Bool
  | .advance .. | .warn .. | .expire .. => true
  | _ => false

/-- The event comes neither from a caller nor from the surroundings. -/
def SwitchboardEvent.isOwn : SwitchboardEvent σ → Bool
  | .call .. | .withdraw .. | .disturb .. => false
  | _ => true

theorem SwitchboardEvent.isOwn_of_isUrgent {event : SwitchboardEvent σ} (urgent : event.isUrgent = true) :
    event.isOwn = true := by
  cases event <;> first | rfl | exact urgent

namespace Traffic

variable {traffic : Traffic σ} {instant : Nat}

theorem dueIn_eq_nil_iff {index : Nat} {chain : Chain σ} :
    dueIn instant index chain = [] ↔ chain.canAdvance instant = false ∧ chain.Early instant := by
  have waiting : (∀ numbered ∈ chain.waits.zipIdx,
      ((if numbered.1.warnAt.any (· ≤ instant) then [TrafficEvent.warn index numbered.2] else []) ++
        if numbered.1.expireAt.any (· ≤ instant) then [TrafficEvent.expire index numbered.2] else []) =
          ([] : List (TrafficEvent σ))) ↔ chain.Early instant := by
    refine Iff.trans ?_ (forall_mem_zipIdx_iff _)
    simp [Option.any_eq_false]
  rw [dueIn, List.append_eq_nil_iff, List.flatMap_eq_nil_iff]
  exact and_congr (by simp) waiting

/-- Nothing can go on, and nothing is overdue, just if the schedule finds nothing. -/
theorem due?_eq_none_iff :
    traffic.due? = none ↔ ∀ chain ∈ traffic.chains, chain.canAdvance traffic.now = false ∧ chain.Early traffic.now := by
  rw [due?, List.findSome?_eq_none_iff]
  simp only [List.head?_eq_none_iff, dueIn_eq_nil_iff]
  exact forall_mem_zipIdx_iff fun chain : Chain σ => chain.canAdvance traffic.now = false ∧ chain.Early traffic.now

/-- What is due can happen, as long as the governors that may give up on a call exist. -/
theorem exists_step_of_due
    (known : ∀ chain ∈ traffic.chains, ∀ wait ∈ chain.waits, wait.expireAt.isSome →
      ∃ governor, traffic.governors[wait.governor]? = some governor)
    (due : traffic.due? ≠ none) :
    (∃ index, traffic.step? (.advance index) ≠ none) ∨ (∃ index position, traffic.step? (.warn index position) ≠ none) ∨
      ∃ index position, traffic.step? (.expire index position) ≠ none := by
  by_contra stuck
  simp only [not_or, not_exists, not_not] at stuck
  rcases stuck with ⟨advance, warn, expire⟩
  apply due
  rw [due?_eq_none_iff]
  intro chain mem
  rcases List.mem_iff_getElem?.mp mem with ⟨index, found⟩
  refine ⟨?_, fun wait waiting => ?_⟩
  · have still := advance index
    simpa [step?, found, guard] using still
  · rcases List.mem_iff_getElem?.mp waiting with ⟨position, place⟩
    refine ⟨fun instant warns => ?_, fun instant expires => ?_⟩
    · have still := warn index position
      simpa [step?, found, place, Option.mem_def.mp warns, guard] using still
    · rcases known chain mem wait waiting (by simp [Option.mem_def.mp expires]) with ⟨governor, there⟩
      have still := expire index position
      simpa [step?, found, place, Option.mem_def.mp expires, there, guard] using still

theorem step?_elapse (later : traffic.now ≤ instant) :
    traffic.step? (.elapse instant) = some { traffic with now := instant } := by
  simp [step?, guard, later]

/-- When nothing is due, time can pass as far as the first deadline on a punctual clock. -/
theorem isPunctual_elapse (settled : traffic.due? = none)
    (inTime : ∀ deadline ∈ traffic.deadline?, instant ≤ deadline) :
    traffic.isPunctual (.elapse instant) = true :=
  pausesUntil_iff.mpr ⟨fun chain mem => (due?_eq_none_iff.mp settled chain mem).1, inTime⟩

theorem isPunctual_of_isUrgent {event : SwitchboardEvent σ} (urgent : event.isUrgent = true) :
    traffic.isPunctual event = true := by
  cases event <;> first | rfl | cases urgent

end Traffic

/-- Nothing is due in a chain that pauses until the first of its instants. -/
theorem Chain.early_iff {chain : Chain σ} {now : Nat} (paused : chain.canAdvance now = false) (instant : Nat) :
    chain.canAdvance instant = false ∧ chain.Early instant ↔ ∀ deadline ∈ chain.deadlines, instant < deadline := by
  cases focus : chain.focus with
  | asleep wakeAt rest =>
      simp only [canAdvance, Early, deadlines, focus, List.singleton_append, List.forall_mem_cons,
        List.forall_mem_flatMap, List.forall_mem_append, Option.mem_toList, Option.mem_def, decide_eq_false_iff_not,
        Nat.not_le]
  | _ => simp [canAdvance, focus] at paused

/-- Where nothing is due, the traffic pauses, and something is due from its first deadline on. -/
theorem Traffic.due?_elapse_eq_none_iff {traffic : Traffic σ} (settled : traffic.due? = none) (instant : Nat) :
    ({ traffic with now := instant } : Traffic σ).due? = none ↔
      ∀ deadline ∈ traffic.chains.flatMap Chain.deadlines, instant < deadline := by
  rw [due?_eq_none_iff, List.forall_mem_flatMap]
  apply forall₂_congr
  intro chain mem
  exact Chain.early_iff (due?_eq_none_iff.mp settled chain mem).1 instant

/-- A move leaves less to do in the traffic as a whole. -/
theorem Move.cutExpand {traffic left : Traffic σ} {chain : Chain σ} {facts : List CallFact} {parts : List (Chain σ)}
    (move : Move traffic chain facts left parts) {index : Nat} (found : traffic.chains[index]? = some chain) :
    Relation.CutExpand Chain.Before ((left.replaceChain index parts).chains : Multiset (Chain σ)) traffic.chains := by
  refine ⟨parts, chain, by simpa using move.before, ?_⟩
  have split := congrArg (fun chains : List (Chain σ) => (chains : Multiset (Chain σ)))
    (List.take_append_drop index traffic.chains)
  rw [List.drop_eq_getElem?_toList_append, found] at split
  simp only [Traffic.replaceChain, move.chains_eq]
  rw [← split]
  simp only [← Multiset.coe_add, Option.toList_some, Multiset.coe_singleton]
  abel

/-- Traffic as a part of something larger, in which whatever is due can happen and time can pass. -/
structure Traffic.Proceeds {ρ : Type} (view : ρ → Traffic σ) (Sound : ρ → Prop) (Later : ρ → ρ → Prop) : Prop where
  refl : ∀ state, Later state state
  trans : ∀ {state next last}, Later state next → Later next last → Later state last
  kept : ∀ {state next}, Sound state → Later state next → Sound next
  urge : ∀ {state}, Sound state → (view state).due? ≠ none → ∃ next, Later state next ∧
    (view next).now = (view state).now ∧
      Relation.CutExpand Chain.Before ((view next).chains : Multiset (Chain σ)) (view state).chains
  pass : ∀ {state instant}, Sound state → (view state).due? = none → (view state).now ≤ instant →
    (∀ deadline ∈ (view state).deadline?, instant ≤ deadline) →
      ∃ next, Later state next ∧ view next = { view state with now := instant }

namespace Traffic.Proceeds

variable {ρ : Type} {view : ρ → Traffic σ} {Sound : ρ → Prop} {Later : ρ → ρ → Prop} {state : ρ}

/-- When nothing is due, time passes to the first deadline, and then something happens. -/
theorem wake (proceeds : Proceeds view Sound Later) (sound : Sound state) (settled : (view state).due? = none)
    {deadline : Nat} (first : (view state).deadline? = some deadline) :
    ∃ next, Later state next ∧ (view next).now = deadline ∧
      Relation.CutExpand Chain.Before ((view next).chains : Multiset (Chain σ)) (view state).chains := by
  have known := (List.min?_eq_some_iff.mp first).1
  have ahead := (due?_elapse_eq_none_iff settled (view state).now).mp settled deadline known
  have inTime : ∀ other ∈ (view state).deadline?, deadline ≤ other := by
    intro other same
    exact (Option.mem_unique first same).le
  rcases proceeds.pass sound settled ahead.le inTime with ⟨middle, passed, same⟩
  have due : (view middle).due? ≠ none := by
    rw [same]
    intro nothing
    exact Nat.lt_irrefl deadline ((due?_elapse_eq_none_iff settled deadline).mp nothing deadline known)
  rcases proceeds.urge (proceeds.kept sound passed) due with ⟨next, later, now, cut⟩
  rw [same] at now cut
  exact ⟨next, proceeds.trans passed later, now, cut⟩

/-- The traffic comes to every later instant, with everything done that is due by then. -/
theorem reaches (proceeds : Proceeds view Sound Later) (sound : Sound state) {instant : Nat}
    (later : (view state).now ≤ instant) :
    ∃ last, Later state last ∧ (view last).now = instant ∧ (view last).due? = none := by
  -- The induction is on what the chains have yet to do: what is due leaves less, and time that passes leaves as much.
  generalize left : ((view state).chains : Multiset (Chain σ)) = chains
  induction chains using Chain.wellFounded_before.cutExpand.induction generalizing state with
  | h chains ih =>
      subst left
      have onward : ∀ {next}, Later state next → (view next).now ≤ instant →
          Relation.CutExpand Chain.Before ((view next).chains : Multiset (Chain σ)) (view state).chains →
          ∃ last, Later state last ∧ (view last).now = instant ∧ (view last).due? = none := by
        intro next passed early cut
        rcases ih _ cut (proceeds.kept sound passed) early rfl with ⟨last, reached, settled⟩
        exact ⟨last, proceeds.trans passed reached, settled⟩
      by_cases due : (view state).due? = none
      · by_cases inTime : ∃ deadline ∈ (view state).deadline?, deadline ≤ instant
        · rcases inTime with ⟨deadline, first, reached⟩
          rcases proceeds.wake sound due first with ⟨next, passed, now, cut⟩
          exact onward passed (now ▸ reached) cut
        · have ahead : ∀ deadline ∈ (view state).deadline?, instant + 1 ≤ deadline :=
            fun deadline mem => Nat.lt_of_not_le fun reached => inTime ⟨deadline, mem, reached⟩
          rcases proceeds.pass sound due later fun deadline mem => Nat.le_of_succ_le (ahead deadline mem) with
            ⟨last, passed, same⟩
          refine ⟨last, passed, congrArg Traffic.now same, ?_⟩
          rw [same]
          refine (due?_elapse_eq_none_iff due instant).mpr fun deadline mem => ?_
          rcases List.mem_flatMap.mp mem with ⟨chain, there, mine⟩
          exact le_of_deadline? ahead there mine
      · rcases proceeds.urge sound due with ⟨next, passed, now, cut⟩
        exact onward passed (now ▸ later) cut

/-- The traffic comes to an end, if nothing is added to it. -/
theorem ends (proceeds : Proceeds view Sound Later) (sound : Sound state) :
    ∃ last, Later state last ∧ (view last).chains = [] := by
  generalize left : ((view state).chains : Multiset (Chain σ)) = chains
  induction chains using Chain.wellFounded_before.cutExpand.induction generalizing state with
  | h chains ih =>
      subst left
      have onward : ∀ {next}, Later state next →
          Relation.CutExpand Chain.Before ((view next).chains : Multiset (Chain σ)) (view state).chains →
          ∃ last, Later state last ∧ (view last).chains = [] := by
        intro next passed cut
        rcases ih _ cut (proceeds.kept sound passed) rfl with ⟨last, reached, nothing⟩
        exact ⟨last, proceeds.trans passed reached, nothing⟩
      by_cases due : (view state).due? = none
      · cases first : (view state).deadline? with
        | some deadline =>
            rcases proceeds.wake sound due first with ⟨next, passed, -, cut⟩
            exact onward passed cut
        | none =>
            refine ⟨state, proceeds.refl state, ?_⟩
            rw [deadline?, List.min?_eq_none_iff, List.flatMap_eq_nil_iff] at first
            apply List.eq_nil_iff_forall_not_mem.mpr
            intro chain mem
            -- A chain that has no deadline does not pause, and so can go on.
            have quiet := (due?_eq_none_iff.mp due chain mem).1
            have none := first chain mem
            cases focus : chain.focus <;> simp [Chain.canAdvance, Chain.deadlines, focus] at quiet none
      · rcases proceeds.urge sound due with ⟨next, passed, -, cut⟩
        exact onward passed cut

end Traffic.Proceeds

namespace Chronicle

variable {switchboard : Switchboard σ} {chronicle next : Chronicle σ} {event : SwitchboardEvent σ}

/-- What happens because it is due leaves less to do. -/
theorem cutExpand_of_step (urgent : event.isUrgent = true) (step : Step switchboard chronicle event next) :
    next.traffic.now = chronicle.traffic.now ∧
      Relation.CutExpand Chain.Before (next.traffic.chains : Multiset (Chain σ)) chronicle.traffic.chains := by
  cases step with
  | move found owned move => exact ⟨move.now_eq, move.cutExpand found⟩
  | _ => simp [SwitchboardEvent.isUrgent] at urgent

theorem Orderly.exists_call (orderly : chronicle.Orderly switchboard) {chain : Chain σ}
    (mem : chain ∈ chronicle.traffic.chains) :
    ∃ call record, chronicle.calls[call]? = some record ∧ chain ∈ chronicle.chainsOf call := by
  rcases List.mem_iff_getElem?.mp mem with ⟨index, found⟩
  rcases orderly.balanced.owner found with ⟨call, owned⟩
  have bound := orderly.known call (List.mem_of_getElem? owned)
  refine ⟨call, _, List.getElem?_eq_getElem bound, List.mem_filterMap.mpr ⟨(call, chain), ?_, if_pos rfl⟩⟩
  exact List.mem_of_getElem? (List.getElem?_zip_eq_some.mpr ⟨owned, found⟩)

/-- A governor that may give up on a call exists. -/
theorem exists_governor_of_run {surroundings : σ} {events : List (SwitchboardEvent σ)}
    (run : (start switchboard surroundings).run? switchboard events = some chronicle) :
    ∀ chain ∈ chronicle.traffic.chains, ∀ wait ∈ chain.waits, wait.expireAt.isSome →
      ∃ governor, chronicle.traffic.governors[wait.governor]? = some governor := by
  intro chain mem wait waiting expires
  have orderly := orderly_of_run run
  rcases orderly.exists_call mem with ⟨call, record, known, mine⟩
  have limited := (satisfies_of_run CallLaw.limited run call record known).2 chain mine
  rcases limited wait waiting expires with ⟨original, there, -⟩
  have bound := (List.getElem?_eq_some_iff.mp there).1
  have lengths := orderly.serves.governors_length
  rw [List.length_cons, List.length_map, ← lengths] at bound
  exact ⟨_, List.getElem?_eq_getElem bound⟩

end Chronicle

namespace Timetable

variable {switchboard : Switchboard σ} {timetable next : Timetable σ} {event : SwitchboardEvent σ} {instant : Nat}

/-- The traffic comes to an instant by itself and on a punctual clock, with everything done that is due by then. -/
def Reaches (switchboard : Switchboard σ) (timetable : Timetable σ) (instant : Nat) : Prop :=
  ∃ more later, (∀ event ∈ more, event.isOwn = true) ∧
    timetable.chronicle.traffic.keepsTo (Traffic.react? switchboard) Traffic.isPunctual more = true ∧
    timetable.run? switchboard more = some later ∧ timetable.Continues later ∧
      later.chronicle.traffic.now = instant ∧ later.chronicle.traffic.due? = none

variable {surroundings : σ} {events : List (SwitchboardEvent σ)}

/-- What is due can happen next. -/
theorem exists_step_of_due (run : (start switchboard surroundings).run? switchboard events = some timetable)
    (due : timetable.chronicle.traffic.due? ≠ none) :
    ∃ event next, event.isUrgent = true ∧ timetable.step? switchboard event = some next ∧
      next.chronicle.traffic.now = timetable.chronicle.traffic.now ∧
      Relation.CutExpand Chain.Before (next.chronicle.traffic.chains : Multiset (Chain σ))
        timetable.chronicle.traffic.chains := by
  have chronicled := run?_chronicle run
  have moves : ∃ event, event.isUrgent = true ∧ timetable.chronicle.traffic.react? switchboard event ≠ none := by
    rcases Traffic.exists_step_of_due (Chronicle.exists_governor_of_run chronicled) due with
      ⟨index, moves⟩ | ⟨index, position, moves⟩ | ⟨index, position, moves⟩
    · exact ⟨.advance index, rfl, moves⟩
    · exact ⟨.warn index position, rfl, moves⟩
    · exact ⟨.expire index position, rfl, moves⟩
  rcases moves with ⟨event, urgent, moves⟩
  rcases Option.ne_none_iff_exists'.mp moves with ⟨traffic, reacts⟩
  have happened : timetable.chronicle.step? switchboard event = some (timetable.chronicle.account event traffic) := by
    rw [Chronicle.step?, reacts, Option.map_some]
  have balanced := (Chronicle.orderly_of_run chronicled).balanced
  have cut := Chronicle.cutExpand_of_step urgent (Chronicle.step_of_step? balanced happened)
  refine ⟨event, timetable.account event (timetable.chronicle.account event traffic), urgent, ?_, cut⟩
  rw [step?, happened, Option.map_some]

theorem run?_append (timetable : Timetable σ) (events more : List (SwitchboardEvent σ)) :
    timetable.run? switchboard (events ++ more) =
      (timetable.run? switchboard events).bind fun middle => middle.run? switchboard more := by
  induction events generalizing timetable with
  | nil => rfl
  | cons first events ih => simp [run?, ih, Option.bind_assoc]

/-- One timetable becomes the other one by itself and on a punctual clock, and nothing is forgotten. -/
def Becomes (switchboard : Switchboard σ) (timetable later : Timetable σ) : Prop :=
  timetable.Continues later ∧ ∃ more, (∀ event ∈ more, event.isOwn = true) ∧
    timetable.chronicle.traffic.keepsTo (Traffic.react? switchboard) Traffic.isPunctual more = true ∧
    timetable.run? switchboard more = some later

theorem Becomes.of_step (run : (start switchboard surroundings).run? switchboard events = some timetable)
    (happened : timetable.step? switchboard event = some next) (own : event.isOwn = true)
    (punctual : timetable.chronicle.traffic.isPunctual event = true) : timetable.Becomes switchboard next := by
  have step := step_of_step? (Chronicle.orderly_of_run (run?_chronicle run)).balanced happened
  refine ⟨step.continues, [event], ?_, Traffic.keepsTo_cons.mpr ⟨punctual, fun _ _ => rfl⟩, ?_⟩
  · simpa using own
  · simp [run?, happened]

theorem proceeds (switchboard : Switchboard σ) (surroundings : σ) :
    Traffic.Proceeds (fun timetable : Timetable σ => timetable.chronicle.traffic)
      (fun timetable => ∃ events, (start switchboard surroundings).run? switchboard events = some timetable)
      (Becomes switchboard) where
  refl timetable := ⟨.refl timetable, [], by simp, rfl, rfl⟩
  trans := by
    rintro timetable next last ⟨kept, events, owns, punctual, run⟩ ⟨kept', more, owns', punctual', run'⟩
    refine ⟨kept.trans kept', events ++ more, List.forall_mem_append.mpr ⟨owns, owns'⟩, ?_, ?_⟩
    · refine Traffic.keepsTo_append.mpr ⟨punctual, fun last same => ?_⟩
      rw [Chronicle.foldlM_of_run? (run?_chronicle run)] at same
      exact Option.some.inj same ▸ punctual'
    · rw [run?_append, run, Option.bind_some, run']
  kept := by
    rintro timetable next ⟨events, run⟩ ⟨-, more, -, -, run'⟩
    refine ⟨events ++ more, ?_⟩
    rw [run?_append, run, Option.bind_some, run']
  urge := by
    rintro timetable ⟨events, run⟩ due
    rcases exists_step_of_due run due with ⟨event, next, urgent, happened, now, cut⟩
    have becomes := Becomes.of_step run happened (SwitchboardEvent.isOwn_of_isUrgent urgent)
      (Traffic.isPunctual_of_isUrgent urgent)
    exact ⟨next, becomes, now, cut⟩
  pass := by
    rintro timetable instant ⟨events, run⟩ settled later inTime
    have passes := Traffic.step?_elapse later
    have happened : timetable.step? switchboard (.elapse instant) =
        some { timetable with chronicle.traffic := { timetable.chronicle.traffic with now := instant } } := by
      simp [step?, Chronicle.step?, Traffic.react?, passes, account, Chronicle.concerned?, Chronicle.account,
        Traffic.turn?]
    exact ⟨_, .of_step run happened rfl (Traffic.isPunctual_elapse settled inTime), rfl⟩

/-- Whatever happens on a switchboard, its traffic can go on to every later instant, and does so by itself. -/
theorem reaches_of_run (run : (start switchboard surroundings).run? switchboard events = some timetable)
    (later : timetable.chronicle.traffic.now ≤ instant) : timetable.Reaches switchboard instant := by
  rcases (proceeds switchboard surroundings).reaches ⟨events, run⟩ later with
    ⟨last, ⟨kept, more, owns, punctual, ran⟩, now, settled⟩
  exact ⟨more, last, owns, punctual, ran, kept, now, settled⟩

end Timetable

end LedgerService
