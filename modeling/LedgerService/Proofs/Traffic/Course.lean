import LedgerService.Proofs.Traffic.Posts
import LedgerService.Proofs.Traffic.Vigil
import Mathlib.Data.List.Basic
import Mathlib.Data.List.Infix
import Mathlib.Data.List.Perm.Basic

/-!
# The course of a call

What a call has told to its posts, and what is still to come, from its arrival on. `Course` says that every post is
reported to once, from the innermost one to the caller, that a task on its way out carries what was told to the post
behind it at this very instant, and that every governor keeps a `Vigil` between two posts. It holds when a call arrives,
and is kept by every `Passage` and by the time that passes while no task can go on.
-/

namespace LedgerService

variable {σ : Type}

section

variable {α : Type} {route : List α}

/-- In a list without duplicates, an element has one predecessor. -/
theorem eq_of_infix_pair (nodup : route.Nodup) {first second last : α} (one : [first, last] <:+: route)
    (other : [second, last] <:+: route) : first = second := by
  rcases one with ⟨before, after, rfl⟩
  rcases other with ⟨before', after', same⟩
  have split : (before ++ [first]) ++ last :: after = (before' ++ [second]) ++ last :: after' := by
    simpa using same.symm
  have distinct : ((before ++ [first]) ++ last :: after).Nodup := by simpa using nodup
  rcases List.nodup_append.mp distinct with ⟨-, back, apart⟩
  have left : last ∉ before ++ [first] := fun mem => apart last mem last List.mem_cons_self rfl
  have fronts := ((List.append_cons_inj_of_notMem left (List.nodup_cons.mp back).1).mp split).1
  simpa using (List.append_inj' fronts rfl).2

/-- The predecessor of an element stands before it in every part of the list in which the element is not the first. -/
theorem mem_of_infix_pair (nodup : route.Nodup) {first second last : α} {rest : List α}
    (part : first :: rest <:+: route) (mem : last ∈ rest) (pair : [second, last] <:+: route) :
    second = first ∨ second ∈ rest := by
  rcases List.mem_iff_append.mp mem with ⟨before, after, rfl⟩
  rcases List.eq_nil_or_concat' (first :: before) with none | ⟨front, previous, split⟩
  · simp at none
  · have close : [previous, last] <:+: first :: (before ++ last :: after) := by
      refine ⟨front, after, ?_⟩
      rw [← List.cons_append, split]
      simp
    rcases eq_of_infix_pair nodup pair (close.trans part)
    have known : second ∈ first :: before := by simp [split]
    rcases List.mem_cons.mp known with same | mem
    · exact .inl same
    · exact .inr (List.mem_append_left _ mem)

end

/-- What a call has told so far. -/
structure CallTimes where
  caller : String
  /-- The instant at which the call was made. -/
  arrival : Nat
  /-- What has been told, with the post and the instant, the latest first. -/
  told : List (Post × Nat × Ending)

namespace CallTimes

/-- The call has told its ending to a post, at an instant. -/
def Tells (times : CallTimes) (post : Post) (instant : Nat) (ending : Ending) : Prop :=
  (post, instant, ending) ∈ times.told

/-- The call reports at an instant. -/
def note (now : Nat) (reports : List (Post × Ending)) (times : CallTimes) : CallTimes :=
  { times with told := (reports.map fun report => (report.1, now, report.2)) ++ times.told }

theorem tells_note {now : Nat} {reports : List (Post × Ending)} {times : CallTimes} {post : Post} {instant : Nat}
    {ending : Ending} :
    (times.note now reports).Tells post instant ending ↔
      ((post, ending) ∈ reports ∧ instant = now) ∨ times.Tells post instant ending := by
  simp only [Tells, note, List.mem_append, List.mem_map, Prod.mk.injEq, Prod.exists]
  apply or_congr_left
  constructor
  · rintro ⟨_, _, mem, rfl, rfl, rfl⟩
    exact ⟨mem, rfl⟩
  · rintro ⟨mem, rfl⟩
    exact ⟨_, _, mem, rfl, rfl, rfl⟩

theorem map_fst_note (now : Nat) (reports : List (Post × Ending)) (times : CallTimes) :
    (times.note now reports).told.map Prod.fst = reports.map Prod.fst ++ times.told.map Prod.fst := by
  simp [note, Function.comp_def]

end CallTimes

namespace Governor

variable {governor original : Governor}

theorem warnAt?_of_design (same : governor.design = original.design) (now : Nat) :
    governor.warnAt? now = original.warnAt? now := by
  change governor.design.warnAt? now = original.design.warnAt? now
  rw [same]

theorem expireAt?_of_design (same : governor.design = original.design) (now : Nat) :
    governor.expireAt? now = original.expireAt? now := by
  change governor.design.expireAt? now = original.design.expireAt? now
  rw [same]

theorem resource_of_design (same : governor.design = original.design) : governor.resource = original.resource := by
  change governor.design.resource = original.design.resource
  rw [same]

theorem refusal_of_design (same : governor.design = original.design) : governor.refusal = original.refusal := by
  change governor.design.refusal = original.design.refusal
  rw [same]

end Governor

namespace Traffic

/-- The governors of the traffic are the given ones, apart from what they have counted. -/
def GovernedBy (traffic : Traffic σ) (governors : List Governor) : Prop :=
  traffic.governors.map Governor.design = governors.map Governor.design

namespace GovernedBy

variable {traffic : Traffic σ} {governors : List Governor} {index : Nat} {governor : Governor}

theorem original (governed : traffic.GovernedBy governors) (found : traffic.governors[index]? = some governor) :
    ∃ original, governors[index]? = some original ∧ governor.design = original.design := by
  have same := congrArg (·[index]?) governed
  simp only [List.getElem?_map, found, Option.map_some] at same
  rcases Option.map_eq_some_iff.mp same.symm with ⟨original, there, design⟩
  exact ⟨original, there, design.symm⟩

theorem current (governed : traffic.GovernedBy governors) (there : governors[index]? = some governor) :
    ∃ current, traffic.governors[index]? = some current ∧ current.design = governor.design := by
  have same := congrArg (·[index]?) governed
  simp only [List.getElem?_map, there, Option.map_some] at same
  exact Option.map_eq_some_iff.mp same

end GovernedBy

end Traffic

/-- The instants of a waiting task are those of its governor for a call that arrived at some instant. -/
structure Wait.IsTimed (governors : List Governor) (arrival now : Nat) (facts : List CallFact) (wait : Wait) :
    Prop where
  known : ∃ governor, governors[wait.governor]? = some governor ∧ wait.expireAt = governor.expireAt? arrival ∧
    wait.warnAt = if .warned wait.governor ∈ facts then none else governor.warnAt? arrival
  limit : ∀ instant ∈ wait.expireAt, now ≤ instant
  warning : ∀ instant ∈ wait.warnAt, now ≤ instant

/-- A governor begins to watch a call when the call arrives. -/
theorem Wait.IsTimed.opened {traffic : Traffic σ} {governors : List Governor} {facts : List CallFact} {index : Nat}
    {governor : Governor} (governed : traffic.GovernedBy governors) (found : traffic.governors[index]? = some governor)
    (unwarned : .warned index ∉ facts) (duties : List Duty) :
    (⟨duties, index, governor.warnAt? traffic.now, governor.expireAt? traffic.now⟩ : Wait).IsTimed governors
      traffic.now traffic.now facts := by
  rcases governed.original found with ⟨original, there, design⟩
  refine ⟨⟨original, there, Governor.expireAt?_of_design design _, ?_⟩, fun instant due => ?_, fun instant due => ?_⟩
  · rw [if_neg unwarned]
    exact Governor.warnAt?_of_design design _
  · exact Nat.le_of_lt (Governor.lt_of_mem_expireAt? due)
  · exact Nat.le_of_lt (Governor.lt_of_mem_warnAt? due)

/-- Facts that say nothing new about the governor change nothing. -/
theorem Wait.IsTimed.of_facts {governors : List Governor} {arrival now : Nat} {facts : List CallFact} {wait : Wait}
    (timed : wait.IsTimed governors arrival now facts) {new : List CallFact} (silent : .warned wait.governor ∉ new) :
    wait.IsTimed governors arrival now (new ++ facts) := by
  refine ⟨?_, timed.limit, timed.warning⟩
  rcases timed.known with ⟨governor, there, expireAt, warnAt⟩
  exact ⟨governor, there, expireAt, by simpa [silent] using warnAt⟩

/-- A task that has been warned is not warned again. -/
theorem Wait.IsTimed.warned {governors : List Governor} {arrival now : Nat} {facts : List CallFact} {wait : Wait}
    (timed : wait.IsTimed governors arrival now facts) {new : List CallFact} (warned : .warned wait.governor ∈ new) :
    ({ wait with warnAt := none } : Wait).IsTimed governors arrival now (new ++ facts) := by
  refine ⟨?_, timed.limit, by simp⟩
  rcases timed.known with ⟨governor, there, expireAt, -⟩
  exact ⟨governor, there, expireAt, by simp [warned]⟩

theorem Vigil.note {governor : Governor} {times : CallTimes} {now warned expired : Nat} {inside : Post}
    {outside : Nat → Ending → Prop}
    (vigil : Vigil governor times.arrival now warned expired (times.Tells inside) outside)
    (reports : List (Post × Ending)) :
    Vigil governor (times.note now reports).arrival now warned expired ((times.note now reports).Tells inside)
      outside := by
  apply vigil.later le_rfl
  · exact fun instant ending told => CallTimes.tells_note.mpr (.inr told)
  · intro instant ending told
    rcases CallTimes.tells_note.mp told with ⟨-, now⟩ | old
    · exact .inr now
    · exact .inl old

/-- The governor at a position keeps a vigil over a call that tells its ending to a post inside. -/
def CallTimes.HasVigil (governors : List Governor) (now : Nat) (times : CallTimes) (facts : List CallFact)
    (inside : Post) (index : Nat) : Prop :=
  ∃ governor, governors[index]? = some governor ∧
    Vigil governor times.arrival now (facts.count (.warned index)) (facts.count (.expired index)) (times.Tells inside)
      (times.Tells (.governor index))

/-- The state of a call whose ending has to come along some posts. -/
structure Course (governors : List Governor) (route : List Post) (now : Nat) (times : CallTimes)
    (facts : List CallFact) (chains : List (Chain σ)) : Prop where
  pending : (times.told.map Prod.fst ++ chains.flatMap Chain.pending).Perm route
  onWay : ∀ chain ∈ chains, (∀ ending, chain.focus ≠ .leaving ending) → chain.pending <+: route
  leaving : ∀ chain ∈ chains, ∀ ending, chain.focus = .leaving ending →
    ∃ post, times.Tells post now ending ∧ post :: chain.pending <:+: route
  ahead : ∀ chain ∈ chains, ∀ index, .governor index ∈ chain.ahead → now = times.arrival ∧ .warned index ∉ facts
  waits : ∀ chain ∈ chains, ∀ wait ∈ chain.waits, wait.IsTimed governors times.arrival now facts
  vigils : ∀ inside index, [inside, .governor index] <:+: route → times.HasVigil governors now facts inside index
  answers : ∀ inside caller, [inside, .caller caller] <:+: route → ∀ instant ending,
    times.Tells (.caller caller) instant ending → times.Tells inside instant ending

namespace Course

variable {governors : List Governor} {route : List Post} {now : Nat} {times : CallTimes} {facts : List CallFact}
  {chains : List (Chain σ)}

theorem nodup (course : Course governors route now times facts chains) (distinct : route.Nodup) :
    (times.told.map Prod.fst ++ chains.flatMap Chain.pending).Nodup :=
  course.pending.nodup_iff.mpr distinct

/-- A call tells its ending to a post only once. -/
theorem tells_once (course : Course governors route now times facts chains) (distinct : route.Nodup) {post : Post}
    {instant other : Nat} {ending result : Ending} (one : times.Tells post instant ending)
    (two : times.Tells post other result) : instant = other ∧ ending = result := by
  have single := (List.nodup_append.mp (course.nodup distinct)).1
  have same := List.inj_on_of_nodup_map single one two rfl
  simpa using same

theorem not_tells (course : Course governors route now times facts chains) (distinct : route.Nodup) {chain : Chain σ}
    (mem : chain ∈ chains) {post : Post} (pending : post ∈ chain.pending) (instant : Nat) (ending : Ending) :
    ¬ times.Tells post instant ending := by
  intro told
  have apart := (List.nodup_append.mp (course.nodup distinct)).2.2
  have known : post ∈ times.told.map Prod.fst := List.mem_map.mpr ⟨_, told, rfl⟩
  exact apart post known post (List.mem_flatMap.mpr ⟨chain, mem, pending⟩) rfl

theorem mem_route (course : Course governors route now times facts chains) {chain : Chain σ} (mem : chain ∈ chains)
    {post : Post} (pending : post ∈ chain.pending) : post ∈ route :=
  course.pending.mem_iff.mp (List.mem_append_right _ (List.mem_flatMap.mpr ⟨chain, mem, pending⟩))

theorem tells_or_pending (course : Course governors route now times facts chains) {post : Post} (mem : post ∈ route) :
    (∃ instant ending, times.Tells post instant ending) ∨ ∃ chain ∈ chains, post ∈ chain.pending := by
  rcases List.mem_append.mp (course.pending.mem_iff.mpr mem) with told | pending
  · rcases List.mem_map.mp told with ⟨⟨_, instant, ending⟩, known, rfl⟩
    exact .inl ⟨instant, ending, known⟩
  · exact .inr (List.mem_flatMap.mp pending)

/-- What a chain has yet to report to, no other chain of the call has. -/
theorem not_mem_pending {before after : List (Chain σ)} {chain : Chain σ}
    (course : Course governors route now times facts (before ++ chain :: after)) (distinct : route.Nodup) {post : Post}
    (mine : post ∈ chain.pending) : ∀ other ∈ before ++ after, post ∉ other.pending := by
  intro other mem theirs
  have once := List.nodup_iff_count_le_one.mp (course.nodup distinct) post
  have own := List.count_pos_iff.mpr mine
  have more : 0 < ((before ++ after).flatMap Chain.pending).count post :=
    List.count_pos_iff.mpr (List.mem_flatMap.mpr ⟨other, mem, theirs⟩)
  simp only [List.flatMap_append, List.flatMap_cons, List.count_append] at once more
  omega

theorem nodup_pending (course : Course governors route now times facts chains) (distinct : route.Nodup)
    {chain : Chain σ} (mem : chain ∈ chains) : chain.pending.Nodup :=
  (List.nodup_flatMap.mp (List.nodup_append.mp (course.nodup distinct)).2.1).1 chain mem

end Course

namespace Chain

variable {chain : Chain σ}

/-- The tasks of a chain that reports to nobody twice wait at different governors. -/
theorem nodup_governors (distinct : chain.pending.Nodup) : (chain.waits.map Wait.governor).Nodup := by
  have posts : chain.posts.Nodup := by
    unfold pending at distinct
    split at distinct
    · exact (List.nodup_append.mp (List.nodup_cons.mp distinct).2).2.1
    · exact (List.nodup_cons.mp distinct).2
    · exact distinct
  have waits := (List.nodup_append.mp posts).1
  apply List.Nodup.of_map Post.governor
  simpa [Function.comp_def] using waits

/-- A governor at which a task waits is not ahead. -/
theorem not_mem_ahead (distinct : chain.pending.Nodup) {wait : Wait} (mem : wait ∈ chain.waits) :
    .governor wait.governor ∉ chain.ahead := by
  intro ahead
  have going : ∀ ending, chain.focus ≠ .leaving ending := by
    intro ending focus
    simp [Chain.ahead, focus] at ahead
  rw [pending_of_going going] at distinct
  have apart := (List.nodup_append.mp (List.nodup_cons.mp distinct).2).2.2
  have entry : Post.governor wait.governor ∈ (chain.ahead.filterMap Layer.post?).reverse := by
    simpa using ⟨_, ahead, rfl⟩
  have waiting : Post.governor wait.governor ∈ chain.posts :=
    List.mem_append_left _ (List.mem_map.mpr ⟨wait, mem, rfl⟩)
  exact apart _ entry _ waiting rfl

end Chain

namespace Course

section

variable {governors : List Governor} {route : List Post} {times : CallTimes} {facts new : List CallFact}
  {traffic : Traffic σ} {chain : Chain σ} {before after parts : List (Chain σ)} {reports : List (Post × Ending)}
  (course : Course governors route traffic.now times facts (before ++ chain :: after)) (distinct : route.Nodup)
  (governed : traffic.GovernedBy governors) (passage : Passage traffic chain new reports parts)

include course passage

theorem pending_passage :
    ((times.note traffic.now reports).told.map Prod.fst ++
      (before ++ (parts ++ after)).flatMap Chain.pending).Perm route := by
  rw [List.perm_iff_count]
  intro post
  have moved := passage.pending_perm.count_eq post
  have balance := course.pending.count_eq post
  simp only [CallTimes.map_fst_note, List.flatMap_append, List.flatMap_cons, List.count_append] at moved balance ⊢
  omega

theorem onWay_passage : ∀ other ∈ before ++ (parts ++ after), (∀ ending, other.focus ≠ .leaving ending) →
    other.pending <+: route := by
  have old := course.onWay
  simp only [List.forall_mem_append, List.forall_mem_cons] at old ⊢
  rcases old with ⟨early, mine, late⟩
  refine ⟨early, fun part mem going => ?_, late⟩
  rcases passage.onWay part mem going with ⟨went, shorter⟩
  exact shorter.trans (mine went)

theorem leaving_passage : ∀ other ∈ before ++ (parts ++ after), ∀ ending, other.focus = .leaving ending →
    ∃ post, (times.note traffic.now reports).Tells post traffic.now ending ∧ post :: other.pending <:+: route := by
  have kept : ∀ other ∈ before ++ chain :: after, ∀ ending, other.focus = .leaving ending →
      ∃ post, (times.note traffic.now reports).Tells post traffic.now ending ∧
        post :: other.pending <:+: route := by
    intro other mem ending focus
    rcases course.leaving other mem ending focus with ⟨post, told, part⟩
    exact ⟨post, CallTimes.tells_note.mpr (.inr told), part⟩
  simp only [List.forall_mem_append, List.forall_mem_cons] at kept ⊢
  rcases kept with ⟨early, mine, late⟩
  refine ⟨early, fun part mem ending focus => ?_, late⟩
  rcases passage.leaving part mem ending focus with ⟨before, shorter⟩ | ⟨post, told, rest⟩
  · rcases mine ending before with ⟨post, told, whole⟩
    exact ⟨post, told, ((List.prefix_cons_inj post).mpr shorter).isInfix.trans whole⟩
  · refine ⟨post, CallTimes.tells_note.mpr (.inl ⟨told, rfl⟩), ?_⟩
    by_cases going : ∀ ending, chain.focus ≠ .leaving ending
    · exact rest.isInfix.trans (course.onWay chain (by simp) going).isInfix
    · rcases not_forall_not.mp going with ⟨earlier, was⟩
      rcases course.leaving chain (by simp) earlier was with ⟨inside, -, whole⟩
      exact (rest.trans (List.suffix_cons inside chain.pending)).isInfix.trans whole

include distinct

theorem ahead_passage : ∀ other ∈ before ++ (parts ++ after), ∀ index, .governor index ∈ other.ahead →
    traffic.now = times.arrival ∧ .warned index ∉ new ++ facts := by
  have mine : chain ∈ before ++ chain :: after := by simp
  have kept : ∀ other ∈ before ++ chain :: after, ∀ index, .governor index ∈ other.ahead →
      .warned index ∉ new → traffic.now = times.arrival ∧ .warned index ∉ new ++ facts := by
    intro other mem index ahead silent
    simpa [silent] using course.ahead other mem index ahead
  have others : ∀ other ∈ before ++ after, ∀ index, .governor index ∈ other.ahead → .warned index ∉ new := by
    intro other mem index ahead warned
    rcases passage.exists_of_warned warned with ⟨wait, waiting, rfl⟩
    exact course.not_mem_pending distinct (Chain.mem_pending_of_waits waiting) other mem
      (Chain.mem_pending_of_ahead ahead)
  have own : ∀ index, .governor index ∈ chain.ahead → .warned index ∉ new := by
    intro index ahead warned
    rcases passage.exists_of_warned warned with ⟨wait, waiting, rfl⟩
    exact Chain.not_mem_ahead (course.nodup_pending distinct mine) waiting ahead
  simp only [List.forall_mem_append, List.forall_mem_cons] at kept others ⊢
  rcases kept with ⟨early, mine, late⟩
  refine ⟨fun other mem index ahead => ?_, fun part mem index ahead => ?_, fun other mem index ahead => ?_⟩
  · exact early other mem index ahead (others.1 other mem index ahead)
  · have was := passage.ahead_subset part mem ahead
    exact mine index was (own index was)
  · exact late other mem index ahead (others.2 other mem index ahead)

include governed in
theorem waits_passage : ∀ other ∈ before ++ (parts ++ after), ∀ wait ∈ other.waits,
    wait.IsTimed governors times.arrival traffic.now (new ++ facts) := by
  have mine : chain ∈ before ++ chain :: after := by simp
  have others : ∀ other ∈ before ++ after, ∀ wait ∈ other.waits, .warned wait.governor ∉ new := by
    intro other mem wait waits warned
    rcases passage.exists_of_warned warned with ⟨same, waiting, governor⟩
    apply course.not_mem_pending distinct (Chain.mem_pending_of_waits waiting) other mem
    rw [governor]
    exact Chain.mem_pending_of_waits waits
  have old := course.waits
  simp only [List.forall_mem_append, List.forall_mem_cons] at old others ⊢
  rcases old with ⟨early, here, late⟩
  refine ⟨fun other mem wait waits => ?_, fun part mem wait waits => ?_, fun other mem wait waits => ?_⟩
  · exact (early other mem wait waits).of_facts (others.1 other mem wait waits)
  · rcases passage.waits (Chain.nodup_governors (course.nodup_pending distinct mine)) part mem wait waits with
      ⟨known, silent⟩ | ⟨known, waiting, warned, rfl⟩ | ⟨index, governor, ahead, found, rfl⟩
    · exact (here wait known).of_facts silent
    · exact (here known waiting).warned warned
    · have timely := course.ahead chain mine index ahead
      have unwarned : .warned index ∉ new := by
        intro warned
        rcases passage.exists_of_warned warned with ⟨wait, waiting, rfl⟩
        exact Chain.not_mem_ahead (course.nodup_pending distinct mine) waiting ahead
      rw [← timely.1]
      exact (Wait.IsTimed.opened governed found timely.2 chain.duties).of_facts unwarned
  · exact (late other mem wait waits).of_facts (others.2 other mem wait waits)

theorem answers_passage {inside : Post} {caller : String} (pair : [inside, .caller caller] <:+: route) {instant : Nat}
    {ending : Ending} (told : (times.note traffic.now reports).Tells (.caller caller) instant ending) :
    (times.note traffic.now reports).Tells inside instant ending := by
  rw [CallTimes.tells_note] at told ⊢
  rcases told with ⟨now, rfl⟩ | old
  · rcases passage.pending_of_caller now with ⟨focus, last⟩
    rcases course.leaving chain (by simp) ending focus with ⟨post, told, part⟩
    rw [last] at part
    rw [eq_of_infix_pair distinct pair part]
    exact .inr told
  · exact .inr (course.answers inside caller pair instant ending old)

omit passage in
/-- What has ended inside a governor at which a task still waits has ended just now. -/
theorem now_of_tells {wait : Wait} (waiting : wait ∈ chain.waits) {inside : Post}
    (pair : [inside, .governor wait.governor] <:+: route) {instant : Nat} {ending : Ending}
    (told : times.Tells inside instant ending) : instant = traffic.now := by
  have mine : chain ∈ before ++ chain :: after := by simp
  have pending := Chain.mem_pending_of_waits waiting
  have untold : inside ∉ chain.pending := fun mem => course.not_tells distinct mine mem instant ending told
  by_cases going : ∀ result, chain.focus ≠ .leaving result
  · have part := (course.onWay chain mine going).isInfix
    rw [Chain.pending_of_going going] at pending untold part
    rcases mem_of_infix_pair distinct part ((List.mem_cons.mp pending).resolve_left (by simp)) pair with rfl | mem
    · exact absurd List.mem_cons_self untold
    · exact absurd (List.mem_cons_of_mem _ mem) untold
  · rcases not_forall_not.mp going with ⟨result, focus⟩
    rcases course.leaving chain mine result focus with ⟨post, now, part⟩
    rcases mem_of_infix_pair distinct part pending pair with rfl | mem
    · exact (course.tells_once distinct told now).1
    · exact absurd mem untold

omit distinct passage in
/-- A governor that nothing happens at goes on as before. -/
theorem vigil_elsewhere {inside : Post} {index : Nat} (pair : [inside, .governor index] <:+: route)
    (unwarned : .warned index ∉ new) (unexpired : .expired index ∉ new)
    (elsewhere : ∀ ending, (.governor index, ending) ∉ reports) :
    (times.note traffic.now reports).HasVigil governors traffic.now (new ++ facts) inside index := by
  rcases course.vigils inside index pair with ⟨governor, there, vigil⟩
  have same : (times.note traffic.now reports).Tells (.governor index) = times.Tells (.governor index) := by
    funext instant ending
    simp [CallTimes.tells_note, elsewhere]
  refine ⟨governor, there, ?_⟩
  rw [same, List.count_append, List.count_append, List.count_eq_zero.mpr unwarned, List.count_eq_zero.mpr unexpired,
    Nat.zero_add, Nat.zero_add]
  exact vigil.note reports

omit passage in
/-- A governor at which a task still waits has told nothing, and nothing that it has in mind is overdue. -/
theorem vigil_of_waits {wait : Wait} (waiting : wait ∈ chain.waits) {inside : Post}
    (pair : [inside, .governor wait.governor] <:+: route) :
    ∃ governor, governors[wait.governor]? = some governor ∧
      Vigil governor times.arrival traffic.now (facts.count (.warned wait.governor))
        (facts.count (.expired wait.governor)) (times.Tells inside) (times.Tells (.governor wait.governor)) ∧
      (∀ instant ending, ¬ times.Tells (.governor wait.governor) instant ending) ∧
      (∀ limit ∈ governor.expireAt? times.arrival, traffic.now ≤ limit) ∧
      (facts.count (.warned wait.governor) = 0 → ∀ threshold ∈ governor.warnAt? times.arrival,
        traffic.now ≤ threshold) ∧
      wait.expireAt = governor.expireAt? times.arrival ∧
      wait.warnAt = if .warned wait.governor ∈ facts then none else governor.warnAt? times.arrival := by
  have mine : chain ∈ before ++ chain :: after := by simp
  have timed := course.waits chain mine wait waiting
  rcases course.vigils inside wait.governor pair with ⟨governor, there, vigil⟩
  rcases timed.known with ⟨same, known, expireAt, warnAt⟩
  rcases Option.some.inj (there.symm.trans known)
  refine ⟨governor, there, vigil, ?_, ?_, ?_, expireAt, warnAt⟩
  · exact course.not_tells distinct mine (Chain.mem_pending_of_waits waiting)
  · rw [← expireAt]
    exact timed.limit
  · intro unwarned
    rw [if_neg (List.count_eq_zero.mp unwarned)] at warnAt
    rw [← warnAt]
    exact timed.warning

omit passage in
include governed in
/-- The innermost task has ended in time, and the one outside it goes on. -/
theorem vigil_resumed {ending : Ending} {wait : Wait} {waits : List Wait} (calm : Calm new)
    (focus : chain.focus = .leaving ending) (outside : chain.waits = wait :: waits) {inside : Post}
    (pair : [inside, .governor wait.governor] <:+: route) :
    (times.note traffic.now [(.governor wait.governor, traffic.containedBy wait ending)]).HasVigil governors
      traffic.now (new ++ facts) inside wait.governor := by
  have mine : chain ∈ before ++ chain :: after := by simp
  rcases course.vigil_of_waits distinct (by simp [outside] : wait ∈ chain.waits) pair with
    ⟨governor, there, vigil, untold, limits, unwarned, -⟩
  have told : times.Tells inside traffic.now ending := by
    rcases course.leaving chain mine ending focus with ⟨post, told, part⟩
    have next : [post, .governor wait.governor] <:+: post :: chain.pending := by
      simp only [Chain.pending_of_leaving focus, Chain.posts, outside, List.map_cons, List.cons_append]
      exact (List.prefix_append [post, Post.governor wait.governor] _).isInfix
    rw [eq_of_infix_pair distinct pair (next.trans part)]
    exact told
  have contained : traffic.containedBy wait ending = ending.contained governor.resource := by
    rcases governed.current there with ⟨current, found, design⟩
    simp [Traffic.containedBy, found, Governor.resource_of_design design]
  refine ⟨governor, there, ?_⟩
  rw [List.count_append, List.count_append, List.count_eq_zero.mpr (calm _).1, List.count_eq_zero.mpr (calm _).2,
    Nat.zero_add, Nat.zero_add]
  refine Vigil.note ?_ _
  apply vigil.tell untold (.inl ⟨vigil.untold untold, ⟨ending, told, contained⟩, limits⟩) unwarned
  intro instant result
  simp [CallTimes.tells_note, or_comm, and_comm]

omit passage in
theorem vigil_warned {wait : Wait} {instant : Nat} (waiting : wait ∈ chain.waits) (due : wait.warnAt = some instant)
    (reached : instant ≤ traffic.now) {inside : Post} (pair : [inside, .governor wait.governor] <:+: route) :
    times.HasVigil governors traffic.now (.warned wait.governor :: facts) inside wait.governor := by
  rcases course.vigil_of_waits distinct waiting pair with ⟨governor, there, vigil, -, -, -, -, warnAt⟩
  have unwarned : .warned wait.governor ∉ facts := by
    intro warned
    simp [due, warned] at warnAt
  rw [if_neg unwarned, due] at warnAt
  rw [List.count_eq_zero.mpr unwarned] at vigil
  refine ⟨governor, there, ?_⟩
  rw [List.count_cons_self, List.count_cons_of_ne (by simp), List.count_eq_zero.mpr unwarned]
  apply vigil.warn warnAt.symm reached
  exact fun other ending told => Nat.le_of_eq (course.now_of_tells distinct waiting pair told).symm

omit passage in
include governed in
theorem vigil_expired {wait : Wait} {instant : Nat} {governor : Governor} (calm : Calm new)
    (waiting : wait ∈ chain.waits) (due : wait.expireAt = some instant) (reached : instant ≤ traffic.now)
    (known : traffic.governors[wait.governor]? = some governor) {inside : Post}
    (pair : [inside, .governor wait.governor] <:+: route) :
    (times.note traffic.now [(.governor wait.governor, .answered (.error governor.refusal))]).HasVigil governors
      traffic.now (new ++ [.expired wait.governor] ++ facts) inside wait.governor := by
  rcases course.vigil_of_waits distinct waiting pair with
    ⟨original, there, vigil, untold, limits, unwarned, expireAt, -⟩
  have refusal : governor.refusal = original.refusal := by
    rcases governed.original known with ⟨same, there', design⟩
    rcases Option.some.inj (there.symm.trans there')
    exact Governor.refusal_of_design design
  rw [due] at expireAt
  have now : instant = traffic.now := Nat.le_antisymm reached (limits instant expireAt.symm)
  subst now
  refine ⟨original, there, ?_⟩
  have once : (new ++ [CallFact.expired wait.governor] ++ facts).count (.expired wait.governor) = 1 := by
    simp [List.count_eq_zero.mpr (calm _).2, vigil.untold untold]
  have same : (new ++ [CallFact.expired wait.governor] ++ facts).count (.warned wait.governor) =
      facts.count (.warned wait.governor) := by
    simp [List.count_eq_zero.mpr (calm _).1]
  rw [once, same]
  refine Vigil.note ?_ _
  apply vigil.tell untold (.inr ⟨rfl, expireAt.symm, congrArg (Ending.answered ∘ Except.error) refusal, ?_⟩) unwarned
  · intro instant result
    simp [CallTimes.tells_note, or_comm, and_comm]
  · exact fun other ending told => Nat.le_of_eq (course.now_of_tells distinct waiting pair told).symm

include governed in
theorem vigils_passage {inside : Post} {index : Nat} (pair : [inside, .governor index] <:+: route) :
    (times.note traffic.now reports).HasVigil governors traffic.now (new ++ facts) inside index := by
  cases passage with
  | stay calm => exact course.vigil_elsewhere pair (calm index).1 (calm index).2 (by simp)
  | govern => exact course.vigil_elsewhere pair (by simp) (by simp) (by simp)
  | finish calm => exact course.vigil_elsewhere pair (calm index).1 (calm index).2 (by simp)
  | answer => exact course.vigil_elsewhere pair (by simp) (by simp) (by simp)
  | @resume _ ending wait waits calm focus outside =>
      by_cases here : wait.governor = index
      · subst here
        exact course.vigil_resumed distinct governed calm focus outside pair
      · exact course.vigil_elsewhere pair (calm index).1 (calm index).2 (by simp [Ne.symm here])
  | @warn position wait instant found due reached =>
      by_cases here : wait.governor = index
      · subst here
        exact course.vigil_warned distinct (List.mem_of_getElem? found) due reached pair
      · exact course.vigil_elsewhere pair (by simp [Ne.symm here]) (by simp) (by simp)
  | @expire _ position wait instant governor calm found due reached known =>
      by_cases here : wait.governor = index
      · subst here
        exact course.vigil_expired distinct governed calm (List.mem_of_getElem? found) due reached known pair
      · exact course.vigil_elsewhere pair (by simp [(calm index).1]) (by simp [(calm index).2, Ne.symm here])
          (by simp [Ne.symm here])

include governed in
/-- The course of a call goes on through every passage. -/
theorem of_passage :
    Course governors route traffic.now (times.note traffic.now reports) (new ++ facts)
      (before ++ (parts ++ after)) where
  pending := course.pending_passage passage
  onWay := course.onWay_passage passage
  leaving := course.leaving_passage passage
  ahead := course.ahead_passage distinct passage
  waits := course.waits_passage distinct governed passage
  vigils _ _ pair := course.vigils_passage distinct governed passage pair
  answers _ _ pair _ _ told := course.answers_passage distinct passage pair told

end

variable {governors : List Governor} {route : List Post} {times : CallTimes} {facts : List CallFact} {now : Nat}
  {chains : List (Chain σ)}

/-- A call has its whole course before it. -/
theorem start {layers : List Layer} (known : ∀ index, .governor index ∈ layers → governors[index]? ≠ none)
    (now : Nat) (caller : String) (work : Work σ) :
    Course governors (Post.route layers caller) now ⟨caller, now, []⟩ []
      [⟨some caller, [], [], .entering layers work⟩] where
  pending := by simp [Chain.pending, Chain.posts, Post.route]
  onWay := by simp [Chain.pending, Chain.posts, Post.route]
  leaving := by simp
  ahead := by simp
  waits := by simp
  vigils inside index pair := by
    have passed : .governor index ∈ layers := Post.mem_route.mp (pair.subset (by simp))
    rcases Option.ne_none_iff_exists'.mp (known index passed) with ⟨governor, there⟩
    exact ⟨governor, there, .start governor now now (by simp [CallTimes.Tells])⟩
  answers := by simp [CallTimes.Tells]

/-- Where no task can go on, all of them wait, pause, and have nothing to tell. -/
theorem idle_of_quiet {chain : Chain σ} (quiet : chain.canAdvance now = false) :
    (∀ ending, chain.focus ≠ .leaving ending) ∧ chain.ahead = [] := by
  constructor
  · intro ending focus
    simp [Chain.canAdvance, focus] at quiet
  · by_contra passing
    have ready := Chain.Passing.canAdvance (.inl passing) now
    rw [quiet] at ready
    contradiction

/-- Time passes when no task can go on, and never beyond what is due. -/
theorem elapse (course : Course governors route now times facts chains) {instant : Nat} (later : now ≤ instant)
    (quiet : ∀ chain ∈ chains, chain.canAdvance now = false)
    (inTime : ∀ chain ∈ chains, ∀ deadline ∈ chain.deadlines, instant ≤ deadline) :
    Course governors route instant times facts chains where
  pending := course.pending
  onWay := course.onWay
  leaving chain mem ending focus := absurd focus ((idle_of_quiet (quiet chain mem)).1 ending)
  ahead chain mem index ahead := by simp [(idle_of_quiet (quiet chain mem)).2] at ahead
  waits chain mem wait waiting := by
    have timed := course.waits chain mem wait waiting
    have due : ∀ deadline, deadline ∈ wait.warnAt ∨ deadline ∈ wait.expireAt → instant ≤ deadline := by
      intro deadline due
      apply inTime chain mem
      apply List.mem_append_right
      simpa using ⟨wait, waiting, due⟩
    exact ⟨timed.known, fun deadline limit => due deadline (.inr limit), fun deadline warn => due deadline (.inl warn)⟩
  vigils inside index pair := by
    rcases course.vigils inside index pair with ⟨governor, there, vigil⟩
    exact ⟨governor, there, vigil.later later (fun _ _ told => told) fun _ _ told => .inl told⟩
  answers := course.answers

section

variable (course : Course governors route now times facts chains) (distinct : route.Nodup)
  (quiet : ∀ chain ∈ chains, chain.canAdvance now = false)

include course distinct quiet

/-- Where no task can go on, a post is told of an ending only after the post inside it. -/
theorem not_tells_inside {chain : Chain σ} (mem : chain ∈ chains) {inside outside : Post}
    (pair : [inside, outside] <:+: route) (pending : outside ∈ chain.pending) (work : outside ≠ .work)
    (instant : Nat) (ending : Ending) : ¬ times.Tells inside instant ending := by
  have going := (idle_of_quiet (quiet chain mem)).1
  have part := (course.onWay chain mem going).isInfix
  apply course.not_tells distinct mem
  rw [Chain.pending_of_going going] at pending part ⊢
  rcases mem_of_infix_pair distinct part ((List.mem_cons.mp pending).resolve_left work) pair with rfl | mem
  · exact List.mem_cons_self
  · exact List.mem_cons_of_mem _ mem

/-- Once everything that is due has happened, the vigils of the governors are settled. -/
theorem settled (early : ∀ chain ∈ chains, chain.Early now) {inside : Post} {index : Nat}
    (pair : [inside, .governor index] <:+: route) :
    ∃ governor, governors[index]? = some governor ∧
      Vigil governor times.arrival now (facts.count (.warned index)) (facts.count (.expired index))
        (times.Tells inside) (times.Tells (.governor index)) ∧
      Vigil.Settled governor times.arrival now (facts.count (.warned index)) (times.Tells inside)
        (times.Tells (.governor index)) := by
  rcases course.vigils inside index pair with ⟨governor, there, vigil⟩
  refine ⟨governor, there, vigil, ?_⟩
  rcases course.tells_or_pending (pair.subset (by simp) : .governor index ∈ route) with told | ⟨chain, mem, pending⟩
  · exact .inr told
  · have untold := course.not_tells distinct mem pending
    have unended := course.not_tells_inside distinct quiet mem pair pending (by simp)
    rcases idle_of_quiet (quiet chain mem) with ⟨going, nothing⟩
    rw [Chain.pending_of_going going, nothing] at pending
    have waiting : ∃ wait ∈ chain.waits, wait.governor = index := by simpa [Chain.posts] using pending
    rcases waiting with ⟨wait, waiting, rfl⟩
    rcases (course.waits chain mem wait waiting).known with ⟨same, known, expireAt, warnAt⟩
    rcases Option.some.inj (there.symm.trans known)
    rcases early chain mem wait waiting with ⟨warnings, limits⟩
    refine .inl ⟨unended, untold, expireAt ▸ limits, fun unwarned => ?_⟩
    rw [if_neg (List.count_eq_zero.mp unwarned)] at warnAt
    exact warnAt ▸ warnings

/-- Once no task can go on, the caller knows what was told outside the outermost governor. -/
theorem answers_iff {inside : Post} {caller : String} (pair : [inside, .caller caller] <:+: route) {instant : Nat}
    {ending : Ending} : times.Tells (.caller caller) instant ending ↔ times.Tells inside instant ending := by
  refine ⟨course.answers inside caller pair instant ending, fun told => ?_⟩
  rcases course.tells_or_pending (pair.subset (by simp) : .caller caller ∈ route) with
    ⟨other, result, answered⟩ | ⟨chain, mem, pending⟩
  · rcases course.tells_once distinct told (course.answers inside caller pair other result answered) with ⟨rfl, rfl⟩
    exact answered
  · exact absurd told (course.not_tells_inside distinct quiet mem pair pending (by simp) instant ending)

end

end Course

end LedgerService
