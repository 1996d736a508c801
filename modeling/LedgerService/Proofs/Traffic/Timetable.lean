import LedgerService.Proofs.Traffic.Departure

/-!
# Timetables

A timetable accompanies a chronicle and notes when each call arrives, and when its ending is told to which post. It
never gets in the way (`Timetable.step?_chronicle`), and after every run it knows what the callers have been told
(`Timetable.faithful_of_run`). `Timetable.pursues_of_run` says that on a punctual clock each call that no gate has
refused is then on its course, to all of its posts as long as its caller stays.
-/

namespace LedgerService

variable {σ : Type}

theorem Traffic.le_of_deadline? {traffic : Traffic σ} {instant : Nat}
    (inTime : ∀ deadline ∈ traffic.deadline?, instant ≤ deadline) {chain : Chain σ} (mem : chain ∈ traffic.chains)
    {deadline : Nat} (due : deadline ∈ chain.deadlines) : instant ≤ deadline := by
  have known : deadline ∈ traffic.chains.flatMap Chain.deadlines := List.mem_flatMap.mpr ⟨chain, mem, due⟩
  cases earliest : traffic.deadline? with
  | none =>
      rw [deadline?, List.min?_eq_none_iff] at earliest
      simp [earliest] at known
  | some first => exact (inTime first earliest).trans ((List.min?_eq_some_iff.mp earliest).2 deadline known)

/-- What is learned from the ending that is told to a post, if it is a caller. -/
def Post.answer? : Post → Ending → Option (String × Outcome)
  | .caller name, ending => some (name, .ended ending)
  | _, _ => none

namespace Traffic

variable (traffic : Traffic σ) (chain : Chain σ) (caller : String) (ending : Ending)

@[simp]
theorem discharge_outcomes (duty : Duty) : (traffic.discharge ending duty).outcomes = traffic.outcomes := by
  cases duty with
  | leave gate => rfl
  | record endpoint => cases labelled : ending.status? <;> simp [discharge, labelled]

@[simp]
theorem abandon_outcomes (duties : List Duty) : (traffic.abandon duties).outcomes = traffic.outcomes := by
  induction duties generalizing traffic with
  | nil => rfl
  | cons duty duties ih => simpa [abandon] using ih (traffic.discharge (.panicked none) duty)

/-- What a caller learns in a step is what is reported to the caller. -/
theorem outcomes_advanceChain :
    (traffic.advanceChain chain).1.outcomes =
      (traffic.advanceReports chain).filterMap (fun report => report.1.answer? report.2) ++ traffic.outcomes := by
  cases focus : chain.focus with
  | entering layers work =>
      rcases layers with _ | ⟨_ | _ | _, layers⟩
      · cases work <;> simp [advanceChain, advanceReports, enter, focus, Post.answer?]
      · rename_i index
        cases found : traffic.gates[index]? with
        | none => simp [advanceChain, advanceReports, enter, focus, found]
        | some gate =>
            cases full : gate.isFull <;>
              simp [advanceChain, advanceReports, enter, focus, found, full, adjustGate]
      · rename_i index
        cases found : traffic.governors[index]? <;> simp [advanceChain, advanceReports, enter, focus, found]
      · simp [advanceChain, advanceReports, enter, focus]
  | asleep wakeAt rest => simp [advanceChain, advanceReports, focus]
  | leaving actual =>
      cases ahead : chain.duties with
      | cons duty duties => simp [advanceChain, advanceReports, leave, focus, ahead]
      | nil =>
          cases outside : chain.waits with
          | nil => cases waiting : chain.caller <;>
              simp [advanceChain, advanceReports, leave, report, focus, ahead, outside, waiting, Post.answer?]
          | cons wait waits => simp [advanceChain, advanceReports, leave, focus, ahead, outside, Post.answer?]

/-- A call of the caller has ended, and this is how. -/
def Answered : Prop := (caller, .ended ending) ∈ traffic.outcomes

/-- The callers that are answered in a step are those that are reported to. -/
theorem answered_advanceChain :
    (traffic.advanceChain chain).1.Answered caller ending ↔
      (.caller caller, ending) ∈ traffic.advanceReports chain ∨ traffic.Answered caller ending := by
  have told : ∀ report : Post × Ending, report.1.answer? report.2 = some (caller, .ended ending) ↔
      report = (.caller caller, ending) := by
    rintro ⟨post, result⟩
    cases post <;> simp [Post.answer?]
  simp [Answered, outcomes_advanceChain, told]

end Traffic

theorem Withdrawal.answered {traffic left : Traffic σ} {chain : Chain σ} {facts : List CallFact}
    {parts : List (Chain σ)} (withdrawal : Withdrawal traffic chain facts left parts) (caller : String)
    (ending : Ending) : left.Answered caller ending ↔ traffic.Answered caller ending := by
  cases withdrawal <;> cases waiting : chain.caller <;> simp [Traffic.Answered, Traffic.report]

/-- Chronicle and times of the calls. -/
structure Timetable (σ : Type) where
  chronicle : Chronicle σ
  /-- The times of each call, in the order of the calls. -/
  times : List CallTimes

/-- The position of the call that an event concerns. -/
def Chronicle.concerned? (chronicle : Chronicle σ) (event : SwitchboardEvent σ) : Option Nat := do
  chronicle.owners[(← chronicle.traffic.turn? event).index]?

namespace Timetable

/-- The timetable before any call. -/
def start (switchboard : Switchboard σ) (surroundings : σ) : Timetable σ := ⟨.start switchboard surroundings, []⟩

/-- Notes an event that leads to the given chronicle. -/
def account (timetable : Timetable σ) (event : SwitchboardEvent σ) (chronicle : Chronicle σ) : Timetable σ :=
  ⟨chronicle,
    match event, timetable.chronicle.concerned? event with
    | .call caller _ _, _ => timetable.times ++ [⟨caller, timetable.chronicle.traffic.now, []⟩]
    | event, some call =>
      timetable.times.modify call
        (CallTimes.note timetable.chronicle.traffic.now (timetable.chronicle.traffic.reports event))
    | _, none => timetable.times⟩

/-- The timetable after an event, or none if the event cannot happen now. -/
def step? (switchboard : Switchboard σ) (timetable : Timetable σ) (event : SwitchboardEvent σ) :
    Option (Timetable σ) :=
  (timetable.chronicle.step? switchboard event).map (timetable.account event)

/-- The timetable after events that happen one after the other. -/
def run? (switchboard : Switchboard σ) (timetable : Timetable σ) : List (SwitchboardEvent σ) → Option (Timetable σ)
  | [] => some timetable
  | event :: events => do (← timetable.step? switchboard event).run? switchboard events

/-- A timetable goes along with the events that a chronicle goes along with, and with no others. -/
theorem step?_chronicle (switchboard : Switchboard σ) (timetable : Timetable σ) (event : SwitchboardEvent σ) :
    (timetable.step? switchboard event).map Timetable.chronicle = timetable.chronicle.step? switchboard event := by
  simp [step?, Function.comp_def, account]

theorem run?_chronicle {switchboard : Switchboard σ} {timetable next : Timetable σ}
    {events : List (SwitchboardEvent σ)} (run : timetable.run? switchboard events = some next) :
    timetable.chronicle.run? switchboard events = some next.chronicle := by
  induction events generalizing timetable with
  | nil =>
      rcases Option.some.inj run with rfl
      rfl
  | cons event events ih =>
      rcases Option.bind_eq_some_iff.mp run with ⟨middle, happened, rest⟩
      have went := timetable.step?_chronicle switchboard event
      rw [happened] at went
      exact Option.bind_eq_some_iff.mpr ⟨middle.chronicle, went.symm, ih rest⟩

/-- What an event does to a timetable. -/
inductive Step (switchboard : Switchboard σ) (timetable : Timetable σ) : SwitchboardEvent σ → Timetable σ → Prop where
  | call (caller method : String) (params : Json) :
      Step switchboard timetable (.call caller method params)
        ⟨timetable.chronicle.enroll method
          { timetable.chronicle.traffic with
            chains := timetable.chronicle.traffic.chains ++
              [⟨some caller, [], [], .entering (switchboard.layers method) (switchboard.route method params).2⟩] },
          timetable.times ++ [⟨caller, timetable.chronicle.traffic.now, []⟩]⟩
  | pass {event index call chain facts reports parts} {left : Traffic σ}
      (found : timetable.chronicle.traffic.chains[index]? = some chain)
      (owned : timetable.chronicle.owners[index]? = some call)
      (chains : left.chains = timetable.chronicle.traffic.chains) (now : left.now = timetable.chronicle.traffic.now)
      (passage : (∀ gate, .refused gate ∉ facts) →
        (∀ governor, .governor governor ∈ chain.pending → timetable.chronicle.traffic.governors[governor]? ≠ none) →
          Passage timetable.chronicle.traffic chain facts reports parts)
      (answered : ∀ caller ending, left.Answered caller ending ↔
        (.caller caller, ending) ∈ reports ∨ timetable.chronicle.traffic.Answered caller ending) :
      Step switchboard timetable event
        ⟨timetable.chronicle.note call ⟨index, facts, parts.length⟩ (left.replaceChain index parts),
          timetable.times.modify call (CallTimes.note timetable.chronicle.traffic.now reports)⟩
  | withdraw {caller index call chain facts parts} {left : Traffic σ}
      (found : timetable.chronicle.traffic.chains[index]? = some chain)
      (owned : timetable.chronicle.owners[index]? = some call) (waiting : chain.caller = some caller)
      (withdrawal : Withdrawal timetable.chronicle.traffic chain facts left parts) :
      Step switchboard timetable (.withdraw caller)
        ⟨timetable.chronicle.note call ⟨index, facts, parts.length⟩ (left.replaceChain index parts),
          timetable.times.modify call (CallTimes.note timetable.chronicle.traffic.now [])⟩
  | elapse {instant} (later : timetable.chronicle.traffic.now ≤ instant) :
      Step switchboard timetable (.elapse instant)
        { timetable with
          chronicle.traffic := { timetable.chronicle.traffic with now := instant } }
  | disturb (surroundings : σ) :
      Step switchboard timetable (.disturb surroundings)
        { timetable with
          chronicle.traffic := { timetable.chronicle.traffic with surroundings } }

theorem step_of_step? {switchboard : Switchboard σ} {timetable next : Timetable σ} {event : SwitchboardEvent σ}
    (balanced : timetable.chronicle.Balanced) (happened : timetable.step? switchboard event = some next) :
    Step switchboard timetable event next := by
  rcases Option.map_eq_some_iff.mp happened with ⟨chronicle, chronicled, rfl⟩
  rcases Option.map_eq_some_iff.mp chronicled with ⟨traffic, reacts, rfl⟩
  cases event with
  | call caller method params =>
      simp only [Traffic.react?, Switchboard.arrival, Traffic.step?, Option.some.injEq] at reacts
      subst reacts
      rw [Switchboard.route_fst]
      exact .call caller method params
  | advance index =>
      simp only [Traffic.react?, Traffic.step?, Option.bind_eq_bind, Option.bind_eq_some_iff] at reacts
      rcases reacts with ⟨chain, found, ⟨⟩, ready, reacts⟩
      rcases balanced.owner found with ⟨call, owned⟩
      rcases Option.some.inj reacts with rfl
      have move := timetable.chronicle.traffic.move_of_advance chain
      have step : Step switchboard timetable (.advance index) _ :=
        .pass found owned move.chains_eq move.now_eq (timetable.chronicle.traffic.passage_of_advance chain)
          (timetable.chronicle.traffic.answered_advanceChain chain)
      simpa [account, Chronicle.account, Chronicle.concerned?, Traffic.turn?, Traffic.reports, found, owned] using step
  | warn index position =>
      simp only [Traffic.react?, Traffic.step?, Option.bind_eq_bind, Option.bind_eq_some_iff] at reacts
      rcases reacts with ⟨chain, found, wait, waits, instant, due, ⟨⟩, reached, reacts⟩
      rcases balanced.owner found with ⟨call, owned⟩
      rcases Option.some.inj reacts with rfl
      have passage := Passage.warn waits due ((Option.guard_eq_some' _).mp reached)
      have chains : (timetable.chronicle.traffic.adjustGovernor wait.governor Governor.warn).chains =
          timetable.chronicle.traffic.chains :=
        rfl
      have step : Step switchboard timetable (.warn index position) _ :=
        .pass found owned chains rfl (fun _ _ => passage) fun _ _ => by simp [Traffic.Answered, Traffic.adjustGovernor]
      simpa [account, Chronicle.account, Chronicle.concerned?, Traffic.turn?, Traffic.reports, found, owned, waits]
        using step
  | expire index position =>
      simp only [Traffic.react?, Traffic.step?, Option.bind_eq_bind, Option.bind_eq_some_iff] at reacts
      rcases reacts with ⟨chain, found, wait, waits, instant, due, ⟨⟩, reached, governor, known, reacts⟩
      rcases balanced.owner found with ⟨call, owned⟩
      rcases Option.some.inj reacts with rfl
      have calm := (chain.outer position wait (.answered (.error governor.refusal))).calm_returned
      have passage := Passage.expire calm waits due ((Option.guard_eq_some' _).mp reached) known
      have chains : (timetable.chronicle.traffic.adjustGovernor wait.governor Governor.expire).chains =
          timetable.chronicle.traffic.chains :=
        rfl
      have step : Step switchboard timetable (.expire index position) _ :=
        .pass found owned chains rfl (fun _ _ => passage) fun _ _ => by simp [Traffic.Answered, Traffic.adjustGovernor]
      rw [← chain.outer_returned position wait] at step
      simpa [account, Chronicle.account, Chronicle.concerned?, Traffic.turn?, Traffic.reports, found, owned, waits,
        known] using step
  | withdraw caller =>
      simp only [Traffic.react?, Traffic.step?, Option.bind_eq_bind, Option.bind_eq_some_iff] at reacts
      rcases reacts with ⟨index, first, chain, found, reacts⟩
      rcases balanced.owner found with ⟨call, owned⟩
      rcases timetable.chronicle.traffic.withdrawal_of_withdrawChain index chain with
        ⟨left, parts, withdrawal, count, same⟩
      have waiting : chain.caller = some caller := by
        rcases List.findIdx?_eq_some_iff_getElem.mp first with ⟨bound, waiting, -⟩
        rw [List.getElem?_eq_getElem bound, Option.some.injEq] at found
        simpa [found] using waiting
      rcases Option.some.inj reacts with rfl
      simpa [account, Chronicle.account, Chronicle.concerned?, Traffic.turn?, Traffic.reports, first, found, owned,
        count, same] using Step.withdraw found owned waiting withdrawal
  | elapse instant =>
      simp only [Traffic.react?, Traffic.step?, Option.bind_eq_bind, Option.bind_eq_some_iff] at reacts
      rcases reacts with ⟨⟨⟩, later, reacts⟩
      rcases Option.some.inj reacts with rfl
      exact .elapse ((Option.guard_eq_some' _).mp later)
  | disturb surroundings =>
      rcases Option.some.inj reacts with rfl
      exact .disturb surroundings

/-- What was known of the calls is still known. -/
def Continues (timetable later : Timetable σ) : Prop :=
  ∀ (call : Nat) (record : CallRecord) (times : CallTimes), timetable.chronicle.calls[call]? = some record →
    timetable.times[call]? = some times → ∃ (record' : CallRecord) (times' : CallTimes),
      later.chronicle.calls[call]? = some record' ∧ later.times[call]? = some times' ∧
      record'.method = record.method ∧ record.facts ⊆ record'.facts ∧
      times'.caller = times.caller ∧ times'.arrival = times.arrival ∧ times.told ⊆ times'.told

namespace Continues

variable {timetable later last : Timetable σ}

theorem refl (timetable : Timetable σ) : timetable.Continues timetable := fun _ record times known timed =>
  ⟨record, times, known, timed, rfl, List.Subset.refl _, rfl, rfl, List.Subset.refl _⟩

theorem trans (one : timetable.Continues later) (other : later.Continues last) : timetable.Continues last := by
  intro call record times known timed
  rcases one call record times known timed with
    ⟨record', times', known, timed, method, facts, caller, arrival, told⟩
  rcases other call record' times' known timed with
    ⟨record'', times'', known, timed, method', facts', caller', arrival', told'⟩
  exact ⟨record'', times'', known, timed, method'.trans method, List.Subset.trans facts facts',
    caller'.trans caller, arrival'.trans arrival, List.Subset.trans told told'⟩

theorem of_note (timetable : Timetable σ) (call : Nat) (turn : Turn) (traffic : Traffic σ)
    (reports : List (Post × Ending)) :
    timetable.Continues ⟨timetable.chronicle.note call turn traffic,
      timetable.times.modify call (CallTimes.note timetable.chronicle.traffic.now reports)⟩ := by
  intro other record times known timed
  simp only [Chronicle.note, List.getElem?_modify, known, timed]
  by_cases mine : call = other
  · simp only [if_pos mine]
    exact ⟨_, _, rfl, rfl, rfl, List.subset_append_right _ _, rfl, rfl, List.subset_append_right _ _⟩
  · simp only [if_neg mine]
    exact ⟨_, _, rfl, rfl, rfl, List.Subset.refl _, rfl, rfl, List.Subset.refl _⟩

end Continues

/-- Nothing makes what is known of the calls be forgotten. -/
theorem Step.continues {switchboard : Switchboard σ} {timetable next : Timetable σ} {event : SwitchboardEvent σ}
    (step : Step switchboard timetable event next) : timetable.Continues next := by
  cases step with
  | call caller method params =>
      intro call record times known timed
      refine ⟨record, times, ?_, ?_, rfl, List.Subset.refl _, rfl, rfl, List.Subset.refl _⟩
      · exact (List.getElem?_append_left (List.getElem?_eq_some_iff.mp known).1).trans known
      · exact (List.getElem?_append_left (List.getElem?_eq_some_iff.mp timed).1).trans timed
  | pass => exact Continues.of_note timetable _ _ _ _
  | withdraw => exact Continues.of_note timetable _ _ _ _
  | elapse => exact Continues.refl timetable
  | disturb => exact Continues.refl timetable

end Timetable

namespace Switchboard

/-- The governors of a switchboard, the one of all methods first. -/
def governors (switchboard : Switchboard σ) : List Governor :=
  switchboard.outermost.governor :: switchboard.enclosures.map Enclosure.governor

/-- The posts that the ending of a call of a method comes to on its way out. -/
def posts (switchboard : Switchboard σ) (method caller : String) : List Post :=
  Post.route (switchboard.layers method) caller

variable {switchboard : Switchboard σ}

theorem posts_of_some {method : String} {position : Nat} {handler : Handler σ}
    (known : switchboard.methods.find? method = some (position, handler)) (caller : String) :
    switchboard.posts method caller = [.work, .governor (position + 1), .governor 0, .caller caller] := by
  simp [posts, layers_of_some known, Post.route, rootLayers, methodLayers, List.filterMap_cons]

theorem posts_of_none {method : String} (unknown : switchboard.methods.find? method = none) (caller : String) :
    switchboard.posts method caller = [.work, .governor 0, .caller caller] := by
  simp [posts, layers_of_none unknown, Post.route, rootLayers, List.filterMap_cons]

theorem nodup_posts (switchboard : Switchboard σ) (method caller : String) :
    (switchboard.posts method caller).Nodup := by
  cases known : switchboard.methods.find? method with
  | none => simp [posts_of_none known]
  | some found => simp [posts_of_some known]

/-- The caller comes last. -/
theorem posts_eq_concat (switchboard : Switchboard σ) (method caller : String) :
    ∃ inside, switchboard.posts method caller = inside ++ [.caller caller] :=
  ⟨.work :: ((switchboard.layers method).filterMap Layer.post?).reverse, rfl⟩

theorem caller_of_mem_posts {method caller other : String} (mem : .caller other ∈ switchboard.posts method caller) :
    other = caller := by
  cases known : switchboard.methods.find? method with
  | none => simpa [posts_of_none known] using mem
  | some found => simpa [posts_of_some known] using mem

/-- There is a governor to every layer on the way of a call, in the traffic as on the switchboard. -/
theorem Sound.governor_of_mem (sound : switchboard.Sound) {traffic : Traffic σ} (serves : traffic.Serves switchboard)
    {method : String} {index : Nat} (mem : .governor index ∈ switchboard.layers method) :
    traffic.governors[index]? ≠ none ∧ switchboard.governors[index]? ≠ none := by
  have bound : index < traffic.governors.length := sound.knows serves method _ mem
  have bound' : index < switchboard.governors.length := by
    rw [serves.governors_length] at bound
    simpa [governors] using bound
  simp [List.getElem?_eq_getElem bound, List.getElem?_eq_getElem bound']

end Switchboard

namespace Timetable

variable {switchboard : Switchboard σ} {timetable next : Timetable σ} {event : SwitchboardEvent σ}
  {stays : String → Prop} {punctual : Prop}

/-- What the callers have been told is what the calls have told them. -/
def Faithful (timetable : Timetable σ) : Prop :=
  ∀ caller ending, timetable.chronicle.traffic.Answered caller ending ↔
    ∃ times ∈ timetable.times, ∃ instant, times.Tells (.caller caller) instant ending

/--
A call is on its course to the posts that are left to it. These are all of its posts if its caller stays; otherwise all
inside the outermost governor, or none if no gate has let the call in.
-/
def Pursues (switchboard : Switchboard σ) (stays : String → Prop) (now : Nat) (times : CallTimes) (record : CallRecord)
    (chains : List (Chain σ)) : Prop :=
  ∃ rest dropped, rest ++ dropped = switchboard.posts record.method times.caller ∧
    (stays times.caller → dropped = []) ∧
    (dropped.length ≤ 2 ∨ rest = [] ∧ ∀ gate, .admitted gate ∉ record.facts) ∧
    Course switchboard.governors rest now times record.facts chains

namespace Pursues

variable {times : CallTimes} {record : CallRecord} {traffic left : Traffic σ} {chain : Chain σ}
  {before after parts : List (Chain σ)} {facts : List CallFact} {reports : List (Post × Ending)}

theorem start (sound : switchboard.Sound) {traffic : Traffic σ} (serves : traffic.Serves switchboard) (now : Nat)
    (caller method : String) (work : Work σ) :
    Pursues switchboard stays now ⟨caller, now, []⟩ ⟨method, []⟩
      [⟨some caller, [], [], .entering (switchboard.layers method) work⟩] := by
  refine ⟨_, [], List.append_nil _, fun _ => rfl, .inl (Nat.zero_le 2), ?_⟩
  exact Course.start (fun index mem => (sound.governor_of_mem serves mem).2) now caller work

theorem of_passage (pursues : Pursues switchboard stays traffic.now times record (before ++ chain :: after))
    (sound : switchboard.Sound) (serves : traffic.Serves switchboard)
    (passage : (∀ governor, .governor governor ∈ chain.pending → traffic.governors[governor]? ≠ none) →
      Passage traffic chain facts reports parts) :
    Pursues switchboard stays traffic.now (times.note traffic.now reports) (record.add facts)
      (before ++ (parts ++ after)) := by
  rcases pursues with ⟨rest, dropped, posts, whole, inner, course⟩
  have mine : chain ∈ before ++ chain :: after := by simp
  have distinct : (rest ++ dropped).Nodup := posts ▸ switchboard.nodup_posts record.method times.caller
  have known : ∀ governor, .governor governor ∈ chain.pending → traffic.governors[governor]? ≠ none := by
    intro governor pending
    have mem : .governor governor ∈ switchboard.posts record.method times.caller :=
      posts ▸ List.mem_append_left _ (course.mem_route mine pending)
    exact (sound.governor_of_mem serves (Post.mem_route.mp mem)).1
  refine ⟨rest, dropped, posts, whole, .inl ?_, ?_⟩
  · exact inner.resolve_right fun none => course.route_ne_nil mine none.1
  · exact course.of_passage (List.nodup_append.mp distinct).1 serves.governors (passage known)

theorem of_withdrawal (pursues : Pursues switchboard stays traffic.now times record (before ++ chain :: after))
    {caller : String} (waiting : chain.caller = some caller) (away : ¬ stays caller)
    (unadmitted : chain.waits = [] → (∀ ending, chain.focus ≠ .leaving ending) →
      ∀ gate, .admitted gate ∉ record.facts)
    (withdrawal : Withdrawal traffic chain facts left parts) :
    Pursues switchboard stays traffic.now times (record.add facts) (before ++ (parts ++ after)) := by
  rcases pursues with ⟨rest, dropped, posts, -, -, course⟩
  have mine : chain ∈ before ++ chain :: after := by simp
  have distinct : (rest ++ dropped).Nodup := posts ▸ switchboard.nodup_posts record.method times.caller
  have waited : .caller caller ∈ rest := course.mem_route mine (Chain.mem_pending_of_caller waiting)
  have same : caller = times.caller :=
    Switchboard.caller_of_mem_posts (posts ▸ List.mem_append_left dropped waited)
  subst same
  rcases switchboard.posts_eq_concat record.method times.caller with ⟨inside, ends⟩
  rw [ends] at posts
  rw [posts] at distinct
  -- Nothing has been dropped before, since the caller, who comes last, has not.
  rcases List.append_of_mem waited with ⟨front, back, rfl⟩
  have end' : front ++ ([] ++ [.caller times.caller]) ++ (back ++ dropped) = inside ++ [.caller times.caller] := by
    simpa using posts
  rcases List.append_eq_nil_iff.mp (eq_nil_of_append_last front distinct end') with ⟨rfl, rfl⟩
  rw [List.append_nil] at posts
  rw [posts] at course
  rcases course.of_withdrawal distinct waiting withdrawal with ⟨rest, dropped, split, few, course⟩
  refine ⟨rest, dropped, split.trans ends.symm, fun staying => absurd staying away, ?_, course⟩
  apply few.imp_right
  rintro ⟨rfl, alone, going⟩
  refine ⟨rfl, fun gate admitted => ?_⟩
  rcases List.mem_append.mp admitted with new | old
  · exact withdrawal.not_mem (by simp) new
  · exact unadmitted alone going gate old

end Pursues

/-- What the callers have been told is known, and if time passes as it should, every call is on its course. -/
structure Follows (switchboard : Switchboard σ) (stays : String → Prop) (punctual : Prop) (timetable : Timetable σ) :
    Prop where
  balanced : timetable.times.length = timetable.chronicle.calls.length
  faithful : timetable.Faithful
  /-- A call that a gate has refused has no course. -/
  course : punctual → ∀ call record times, timetable.chronicle.calls[call]? = some record →
    timetable.times[call]? = some times → ¬ record.Refused →
      Pursues switchboard stays timetable.chronicle.traffic.now times record (timetable.chronicle.chainsOf call)

/-- When one of the calls reports, the posts have been told this and what they have been told before. -/
theorem exists_tells_modify {all : List CallTimes} {call : Nat} (bound : call < all.length) (now : Nat)
    (reports : List (Post × Ending)) (post : Post) (ending : Ending) :
    (∃ times ∈ all.modify call (CallTimes.note now reports), ∃ instant, times.Tells post instant ending) ↔
      (post, ending) ∈ reports ∨ ∃ times ∈ all, ∃ instant, times.Tells post instant ending := by
  obtain ⟨before, times, after, rfl, rfl⟩ : ∃ before times after, all = before ++ times :: after ∧
      before.length = call := ⟨all.take call, all[call], all.drop (call + 1), by simp, by simp [bound.le]⟩
  have changed : (before ++ times :: after).modify before.length (CallTimes.note now reports) =
      before ++ times.note now reports :: after := by
    rw [List.modify_eq_take_cons_drop bound]
    simp
  rw [changed]
  simp only [List.mem_append, List.mem_cons, or_and_right, exists_or, exists_eq_left, CallTimes.tells_note,
    exists_and_left, exists_eq, and_true]
  rw [or_assoc, or_left_comm]

theorem Follows.of_note {index call : Nat} {chain : Chain σ} {facts : List CallFact}
    {reports : List (Post × Ending)} {parts : List (Chain σ)} {left : Traffic σ}
    (follows : timetable.Follows switchboard stays punctual) (orderly : timetable.chronicle.Orderly switchboard)
    (found : timetable.chronicle.traffic.chains[index]? = some chain)
    (owned : timetable.chronicle.owners[index]? = some call)
    (chains : left.chains = timetable.chronicle.traffic.chains) (now : left.now = timetable.chronicle.traffic.now)
    (answered : ∀ caller ending, left.Answered caller ending ↔
      (.caller caller, ending) ∈ reports ∨ timetable.chronicle.traffic.Answered caller ending)
    (kept : ∀ (record : CallRecord) (times before after), timetable.chronicle.calls[call]? = some record →
      timetable.chronicle.chainsOf call = before ++ chain :: after → ¬ (record.add facts).Refused →
      Pursues switchboard stays timetable.chronicle.traffic.now times record (before ++ chain :: after) →
      Pursues switchboard stays timetable.chronicle.traffic.now (times.note timetable.chronicle.traffic.now reports)
        (record.add facts) (before ++ (parts ++ after))) :
    Follows switchboard stays punctual
      ⟨timetable.chronicle.note call ⟨index, facts, parts.length⟩ (left.replaceChain index parts),
        timetable.times.modify call (CallTimes.note timetable.chronicle.traffic.now reports)⟩ := by
  rcases Chronicle.chainsOf_note orderly.balanced found owned chains facts parts with
    ⟨⟨before, after, split, replaced⟩, others⟩
  have bound : call < timetable.times.length := by
    rw [follows.balanced]
    exact orderly.known call (List.mem_of_getElem? owned)
  refine ⟨by simpa [Chronicle.note] using follows.balanced, fun caller ending => ?_, ?_⟩
  · rw [exists_tells_modify bound, ← follows.faithful caller ending]
    exact answered caller ending
  intro inTime other record times known timed kindly
  have same : (timetable.chronicle.note call ⟨index, facts, parts.length⟩
      (left.replaceChain index parts)).traffic.now = timetable.chronicle.traffic.now := now
  simp only [same]
  simp only [Chronicle.note, List.getElem?_modify] at known timed
  by_cases mine : other = call
  · subst mine
    rcases Option.map_eq_some_iff.mp known with ⟨old, was, rfl⟩
    rcases Option.map_eq_some_iff.mp timed with ⟨past, then', rfl⟩
    simp only [if_true] at kindly ⊢
    have earlier : ¬ old.Refused := by
      rintro ⟨gate, refused⟩
      exact kindly ⟨gate, List.mem_append_right _ refused⟩
    rw [replaced]
    exact kept old past before after was split kindly (split ▸ follows.course inTime other old past was then' earlier)
  · rw [others other mine]
    simp only [if_neg (Ne.symm mine), id_map'] at known timed
    exact follows.course inTime other record times known timed kindly

theorem Follows.of_step (follows : timetable.Follows switchboard stays punctual) (sound : switchboard.Sound)
    (orderly : timetable.chronicle.Orderly switchboard)
    (inTime : punctual → timetable.chronicle.traffic.isPunctual event = true)
    (away : ∀ caller, event = .withdraw caller → ¬ stays caller)
    (unadmitted : ∀ {call record chain}, timetable.chronicle.calls[call]? = some record →
      chain ∈ timetable.chronicle.chainsOf call → chain.caller.isSome → chain.waits = [] →
        (∀ ending, chain.focus ≠ .leaving ending) → ∀ gate, .admitted gate ∉ record.facts)
    (step : Step switchboard timetable event next) : next.Follows switchboard stays punctual := by
  cases step with
  | call caller method params =>
      refine ⟨by simpa [Chronicle.enroll] using follows.balanced, fun other ending => ?_, ?_⟩
      · have same := follows.faithful other ending
        simpa [Chronicle.enroll, Traffic.Answered, CallTimes.Tells] using same
      intro inTime call record times known timed kindly
      rw [Chronicle.chainsOf_enroll orderly]
      simp only [Chronicle.enroll] at known ⊢
      rcases Nat.lt_trichotomy call timetable.chronicle.calls.length with old | new | beyond
      · rw [List.getElem?_append_left old] at known
        rw [List.getElem?_append_left (follows.balanced ▸ old)] at timed
        simpa [Nat.ne_of_lt old] using follows.course inTime call record times known timed kindly
      · subst new
        rcases by simpa using known with rfl : ⟨method, []⟩ = record
        rcases by simpa [← follows.balanced] using timed with
          rfl : ⟨caller, timetable.chronicle.traffic.now, []⟩ = times
        rw [Chronicle.chainsOf_eq_nil orderly le_rfl]
        simpa using Pursues.start sound orderly.serves timetable.chronicle.traffic.now caller method
          (switchboard.route method params).2
      · rw [List.getElem?_eq_none (by simpa using Nat.succ_le_of_lt beyond)] at known
        contradiction
  | @pass _ index call chain facts reports parts left found owned chains now passage answered =>
      refine follows.of_note orderly found owned chains now answered fun record times _ _ _ _ kindly pursues => ?_
      have kept : ∀ gate, .refused gate ∉ facts := fun gate refused =>
        kindly ⟨gate, List.mem_append_left _ refused⟩
      exact pursues.of_passage sound orderly.serves (passage kept)
  | @withdraw caller index call chain facts parts left found owned waiting withdrawal =>
      refine follows.of_note orderly found owned withdrawal.chains_eq withdrawal.now_eq
        (fun other ending => by simpa using withdrawal.answered other ending)
        fun record times _ _ known split _ pursues => ?_
      have mine : chain ∈ timetable.chronicle.chainsOf call := by simp [split]
      exact pursues.of_withdrawal waiting (away caller rfl) (unadmitted known mine (by simp [waiting])) withdrawal
  | elapse later =>
      refine ⟨follows.balanced, follows.faithful, fun punctual call record times known timed kindly => ?_⟩
      rcases Traffic.pausesUntil_iff.mp (inTime punctual) with ⟨quiet, within⟩
      rcases follows.course punctual call record times known timed kindly with
        ⟨rest, dropped, posts, whole, inner, course⟩
      refine ⟨rest, dropped, posts, whole, inner, course.elapse later (fun chain mem => ?_) fun chain mem => ?_⟩
      · exact quiet chain (Chronicle.mem_chainsOf mem)
      · exact fun deadline due => Traffic.le_of_deadline? within (Chronicle.mem_chainsOf mem) due
  | disturb => exact ⟨follows.balanced, follows.faithful, follows.course⟩

theorem follows_start (switchboard : Switchboard σ) (surroundings : σ) (stays : String → Prop) (punctual : Prop) :
    (start switchboard surroundings).Follows switchboard stays punctual :=
  ⟨rfl, by simp [start, Chronicle.start, Faithful, Traffic.Answered, Switchboard.idleTraffic, Traffic.idle],
    by simp [start, Chronicle.start]⟩

theorem run?_concat {events : List (SwitchboardEvent σ)} :
    timetable.run? switchboard (events ++ [event]) =
      (timetable.run? switchboard events).bind fun middle => middle.step? switchboard event := by
  induction events generalizing timetable with
  | nil => simp [run?]
  | cons first events ih => simp [run?, ih, Option.bind_assoc]

theorem follows_of_run {surroundings : σ} {events : List (SwitchboardEvent σ)} (sound : switchboard.Sound)
    (away : ∀ caller, .withdraw caller ∈ events → ¬ stays caller)
    (inTime : punctual →
      (switchboard.idleTraffic surroundings).keepsTo (Traffic.react? switchboard) Traffic.isPunctual events = true)
    (run : (start switchboard surroundings).run? switchboard events = some timetable) :
    timetable.Follows switchboard stays punctual := by
  induction events using List.reverseRecOn generalizing timetable with
  | nil =>
      rcases Option.some.inj run with rfl
      exact follows_start switchboard surroundings stays punctual
  | append_singleton events event ih =>
      rw [run?_concat] at run
      rcases Option.bind_eq_some_iff.mp run with ⟨middle, ran, happened⟩
      have chronicled : (Chronicle.start switchboard surroundings).run? switchboard events = some middle.chronicle :=
        run?_chronicle ran
      have orderly := Chronicle.orderly_of_run chronicled
      have follows := ih (fun caller mem => away caller (List.mem_append_left _ mem))
        (fun punctual => (Traffic.keepsTo_append.mp (inTime punctual)).1) ran
      have last : punctual → middle.chronicle.traffic.isPunctual event = true := by
        intro punctual
        have onward := (Traffic.keepsTo_append.mp (inTime punctual)).2 _ (Chronicle.foldlM_of_run? chronicled)
        exact (Traffic.keepsTo_cons.mp onward).1
      refine follows.of_step sound orderly last (fun caller same => ?_)
        (fun known => Chronicle.unadmitted_of_run sound chronicled known) (step_of_step? orderly.balanced happened)
      exact away caller (by simp [same])

/-- After every run, a caller has been answered in a way if a call has told it so, and in no other way. -/
theorem faithful_of_run {surroundings : σ} {events : List (SwitchboardEvent σ)} (sound : switchboard.Sound)
    (run : (start switchboard surroundings).run? switchboard events = some timetable) : timetable.Faithful := by
  have follows : timetable.Follows switchboard (fun _ => False) False :=
    follows_of_run sound (fun _ _ => id) False.elim run
  exact follows.faithful

/-- After every run on a punctual clock, a call that no gate has refused is on its course. -/
theorem pursues_of_run {surroundings : σ} {events : List (SwitchboardEvent σ)} (sound : switchboard.Sound)
    (punctual : (switchboard.idleTraffic surroundings).keepsTo (Traffic.react? switchboard) Traffic.isPunctual events)
    (run : (start switchboard surroundings).run? switchboard events = some timetable) {call : Nat}
    {record : CallRecord} {times : CallTimes} (known : timetable.chronicle.calls[call]? = some record)
    (timed : timetable.times[call]? = some times) (kindly : ¬ record.Refused) :
    Pursues switchboard (fun caller => .withdraw caller ∉ events) timetable.chronicle.traffic.now times record
      (timetable.chronicle.chainsOf call) := by
  have follows : timetable.Follows switchboard (fun caller => .withdraw caller ∉ events) True :=
    follows_of_run sound (fun _ mem staying => staying mem) (fun _ => punctual) run
  exact follows.course trivial call record times known timed kindly

end Timetable

end LedgerService
