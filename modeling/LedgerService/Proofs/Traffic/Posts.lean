import LedgerService.Proofs.Traffic.Slots

/-!
# Posts

How the ending of a call finds its way out. The work tells its ending to the task around it; what becomes of that task
is told to the governor outside, what the governor makes of it to the next one, and what the outermost task ends with
to the caller. `Chain.pending` lists the posts that a chain has yet to report to. `Passage` lists what an event can
mean for these, and for what the governors have in mind.
-/

namespace LedgerService

variable {σ : Type}

/-- Where the ending of a part of a call becomes known. -/
inductive Post where
  /-- Around the work. -/
  | work
  /-- Outside a governor. -/
  | governor (index : Nat)
  | caller (name : String)
deriving DecidableEq, Repr

/-- The post outside the layer, if it is a governor. -/
def Layer.post? : Layer → Option Post
  | .governor index => some (.governor index)
  | _ => none

@[simp]
theorem Layer.post?_gate (index : Nat) : (Layer.gate index).post? = none := rfl

@[simp]
theorem Layer.post?_governor (index : Nat) : (Layer.governor index).post? = some (.governor index) := rfl

@[simp]
theorem Layer.post?_sample (endpoint : String) : (Layer.sample endpoint).post? = none := rfl

/-- The posts that the ending of a call comes to on its way out through some layers. -/
def Post.route (layers : List Layer) (caller : String) : List Post :=
  .work :: ((layers.filterMap Layer.post?).reverse ++ [.caller caller])

theorem Post.mem_route {layers : List Layer} {caller : String} {index : Nat} :
    .governor index ∈ route layers caller ↔ .governor index ∈ layers := by
  have only : ∀ layer : Layer, layer.post? = some (.governor index) ↔ layer = .governor index := by
    intro layer
    cases layer <;> simp
  simp [route, only]

theorem Post.eq_of_caller_mem_route {layers : List Layer} {caller name : String}
    (mem : .caller name ∈ route layers caller) : name = caller := by
  have never : ∀ layer : Layer, layer.post? ≠ some (.caller name) := by
    intro layer
    cases layer <;> simp
  simpa [route, never] using mem

namespace Chain

/-- The posts outside the innermost task of the chain. -/
def posts (chain : Chain σ) : List Post :=
  (chain.waits.map fun wait => .governor wait.governor) ++ chain.caller.toList.map .caller

/-- The posts that the chain has yet to report to, the innermost one first. -/
def pending (chain : Chain σ) : List Post :=
  match chain.focus with
  | .entering layers _ => .work :: ((layers.filterMap Layer.post?).reverse ++ chain.posts)
  | .asleep .. => .work :: chain.posts
  | .leaving _ => chain.posts

variable {chain : Chain σ}

theorem pending_of_going (going : ∀ ending, chain.focus ≠ .leaving ending) :
    chain.pending = .work :: ((chain.ahead.filterMap Layer.post?).reverse ++ chain.posts) := by
  cases focus : chain.focus with
  | entering layers work => simp [pending, ahead, focus]
  | asleep wakeAt rest => simp [pending, ahead, focus]
  | leaving ending => exact absurd focus (going ending)

theorem pending_of_leaving {ending : Ending} (focus : chain.focus = .leaving ending) : chain.pending = chain.posts := by
  simp [pending, focus]

theorem mem_pending_of_ahead {index : Nat} (mem : .governor index ∈ chain.ahead) : .governor index ∈ chain.pending := by
  have going : ∀ ending, chain.focus ≠ .leaving ending := by
    intro ending focus
    simp [ahead, focus] at mem
  have listed : Post.governor index ∈ chain.ahead.filterMap Layer.post? := List.mem_filterMap.mpr ⟨_, mem, rfl⟩
  simp [pending_of_going going, listed]

theorem mem_pending_of_waits {wait : Wait} (mem : wait ∈ chain.waits) : .governor wait.governor ∈ chain.pending := by
  have posted : .governor wait.governor ∈ chain.posts := by
    apply List.mem_append_left
    exact List.mem_map_of_mem (f := fun wait : Wait => Post.governor wait.governor) mem
  unfold pending
  split <;> simp [posted]

theorem mem_pending_of_caller {caller : String} (waiting : chain.caller = some caller) :
    .caller caller ∈ chain.pending := by
  have posted : .caller caller ∈ chain.posts := by simp [posts, waiting]
  unfold pending
  split <;> simp [posted]

theorem pending_warned {position : Nat} {wait : Wait} (found : chain.waits[position]? = some wait) :
    Chain.pending { chain with waits := chain.waits.set position { wait with warnAt := none } } = chain.pending := by
  have same : (chain.waits.set position { wait with warnAt := none }).map (fun wait => Post.governor wait.governor) =
      chain.waits.map fun wait => .governor wait.governor :=
    map_set_of_same found rfl
  simp [pending, posts, same]

/-- The other tasks of a chain wait at other governors. -/
theorem mem_set_waits {position : Nat} {wait new other : Wait} (found : chain.waits[position]? = some wait)
    (distinct : (chain.waits.map Wait.governor).Nodup) (mem : other ∈ chain.waits.set position new) :
    other = new ∨ other ∈ chain.waits ∧ other.governor ≠ wait.governor := by
  have bound := (List.getElem?_eq_some_iff.mp found).1
  rw [List.set_eq_take_append_cons_drop, if_pos bound] at mem
  rw [waits_split found, List.map_append, List.map_cons, List.nodup_middle, ← List.map_append] at distinct
  have apart : ∀ other ∈ chain.waits.take position ++ chain.waits.drop (position + 1),
      other.governor ≠ wait.governor := by
    intro other mem same
    exact (List.nodup_cons.mp distinct).1 (List.mem_map.mpr ⟨other, mem, same⟩)
  rcases List.mem_append.mp mem with early | mem
  · exact .inr ⟨List.mem_of_mem_take early, apart other (List.mem_append_left _ early)⟩
  · rcases List.mem_cons.mp mem with rfl | late
    · exact .inl rfl
    · exact .inr ⟨List.mem_of_mem_drop late, apart other (List.mem_append_right _ late)⟩

/-- A chain that is cut has the posts of its parts, and between them the one at which it is cut. -/
theorem pending_cut {position : Nat} {wait : Wait} (found : chain.waits[position]? = some wait) (ending : Ending) :
    chain.pending =
      (chain.inner position).pending ++ .governor wait.governor :: (chain.outer position wait ending).pending := by
  have posts : chain.posts =
      (chain.inner position).posts ++ .governor wait.governor :: (chain.outer position wait ending).posts := by
    simp only [Chain.posts, inner, outer]
    conv_lhs => rw [waits_split found]
    simp
  have tail : (chain.outer position wait ending).pending = (chain.outer position wait ending).posts :=
    pending_of_leaving rfl
  rw [tail]
  unfold pending
  rw [posts]
  cases focus : chain.focus <;> simp [inner, focus]

end Chain

/-- No governor takes notice. -/
def Calm (facts : List CallFact) : Prop := ∀ governor, .warned governor ∉ facts ∧ .expired governor ∉ facts

namespace Traffic

/-- What the next step of the innermost task of a chain tells to a post. -/
def advanceReports (traffic : Traffic σ) (chain : Chain σ) : List (Post × Ending) :=
  match chain.focus, chain.duties, chain.waits with
  | .entering [] (.done ending), _, _ => [(.work, ending)]
  | .leaving ending, [], wait :: _ => [(.governor wait.governor, traffic.containedBy wait ending)]
  | .leaving ending, [], [] => chain.caller.toList.map fun caller => (.caller caller, ending)
  | _, _, _ => []

/-- What an event tells to a post. -/
def reports (traffic : Traffic σ) : SwitchboardEvent σ → List (Post × Ending)
  | .advance index => traffic.chains[index]?.elim [] traffic.advanceReports
  | .expire index position =>
    ((traffic.chains[index]?.bind (·.waits[position]?)).bind fun wait =>
      traffic.governors[wait.governor]?.map fun governor =>
        (.governor wait.governor, .answered (.error governor.refusal))).toList
  | _ => []

end Traffic

/--
What an event can mean for a chain and its call if no gate refuses the call and every governor exists: the facts, the
reports, and the chains that replace the chain.
-/
inductive Passage (traffic : Traffic σ) (chain : Chain σ) :
    List CallFact → List (Post × Ending) → List (Chain σ) → Prop where
  /-- Nothing is told, and no governor begins to watch the call. -/
  | stay {facts part} (calm : Calm facts) (pending : part.pending = chain.pending) (waits : part.waits = chain.waits)
      (focus : ∀ ending, part.focus = .leaving ending ↔ chain.focus = .leaving ending)
      (ahead : part.ahead ⊆ chain.ahead) :
      Passage traffic chain facts [] [part]
  | govern {index layers work governor} (focus : chain.focus = .entering (.governor index :: layers) work)
      (found : traffic.governors[index]? = some governor) :
      Passage traffic chain [] []
        [{ chain with
            waits := ⟨chain.duties, index, governor.warnAt? traffic.now, governor.expireAt? traffic.now⟩ ::
              chain.waits
            duties := []
            focus := .entering layers work }]
  | finish {facts ending} (calm : Calm facts) (focus : chain.focus = .entering [] (.done ending)) :
      Passage traffic chain facts [(.work, ending)] [{ chain with focus := .leaving ending }]
  | resume {facts ending wait waits} (calm : Calm facts) (focus : chain.focus = .leaving ending)
      (outside : chain.waits = wait :: waits) :
      Passage traffic chain facts [(.governor wait.governor, traffic.containedBy wait ending)]
        [{ chain with waits, duties := wait.duties, focus := .leaving (traffic.containedBy wait ending) }]
  | answer {ending} (focus : chain.focus = .leaving ending) (alone : chain.waits = []) :
      Passage traffic chain [] (chain.caller.toList.map fun caller => (.caller caller, ending)) []
  | warn {position wait instant} (found : chain.waits[position]? = some wait) (due : wait.warnAt = some instant)
      (reached : instant ≤ traffic.now) :
      Passage traffic chain [.warned wait.governor] []
        [{ chain with waits := chain.waits.set position { wait with warnAt := none } }]
  | expire {facts position wait instant governor} (calm : Calm facts) (found : chain.waits[position]? = some wait)
      (due : wait.expireAt = some instant) (reached : instant ≤ traffic.now)
      (known : traffic.governors[wait.governor]? = some governor) :
      Passage traffic chain (facts ++ [.expired wait.governor])
        [(.governor wait.governor, .answered (.error governor.refusal))]
        [chain.outer position wait (.answered (.error governor.refusal)), chain.inner position]

theorem Chain.calm_returned (chain : Chain σ) : Calm chain.returned := by
  intro governor
  exact ⟨chain.not_mem_returned (by simp), chain.not_mem_returned (by simp)⟩

namespace Traffic

variable (traffic : Traffic σ) (chain : Chain σ)

/-- A chain whose posts and waits stay as they are, on its way in or at work. -/
theorem passage_of_going {facts : List CallFact} {duties : List Duty} {next : Focus σ} (calm : Calm facts)
    (before : ∀ ending, chain.focus ≠ .leaving ending) (after : ∀ ending, next ≠ .leaving ending)
    (ahead : Chain.ahead { chain with duties, focus := next } ⊆ chain.ahead)
    (same : (Chain.ahead { chain with duties, focus := next }).filterMap Layer.post? =
      chain.ahead.filterMap Layer.post?) :
    Passage traffic chain facts [] [{ chain with duties, focus := next }] := by
  refine .stay calm ?_ rfl (fun ending => iff_of_false (after ending) (before ending)) ahead
  rw [Chain.pending_of_going before, Chain.pending_of_going after, same]
  rfl

theorem passage_of_advance (kept : ∀ gate, .refused gate ∉ traffic.advanceFacts chain)
    (known : ∀ index, .governor index ∈ chain.pending → traffic.governors[index]? ≠ none) :
    Passage traffic chain (traffic.advanceFacts chain) (traffic.advanceReports chain)
      (traffic.advanceChain chain).2.toList := by
  cases focus : chain.focus with
  | entering layers work =>
      rcases layers with _ | ⟨_ | _ | _, layers⟩
      · cases work with
        | done ending =>
            simpa [advanceFacts, advanceReports, advanceChain, enter, focus] using
              Passage.finish (Chain.calm_returned _) focus
        | pause duration rest =>
            simp only [advanceFacts, advanceReports, advanceChain, enter, focus]
            apply passage_of_going <;> simp [Chain.calm_returned, Chain.ahead, focus]
        | consult change next =>
            simp only [advanceFacts, advanceReports, advanceChain, enter, focus]
            apply passage_of_going <;> simp [Chain.calm_returned, Chain.ahead, focus]
      · rename_i index
        cases found : traffic.gates[index]? with
        | none =>
            simp only [advanceFacts, advanceReports, advanceChain, enter, focus, found]
            apply passage_of_going <;> simp [Chain.calm_returned, Chain.ahead, focus, List.filterMap_cons]
        | some gate =>
            cases full : gate.isFull with
            | true =>
                apply absurd _ (kept index)
                simp [advanceFacts, focus, found, full]
            | false =>
                simp only [advanceFacts, advanceReports, advanceChain, enter, focus, found, full]
                apply passage_of_going <;> simp [Calm, Chain.returned, Chain.ahead, focus, List.filterMap_cons]
      · rename_i index
        cases found : traffic.governors[index]? with
        | none => exact absurd found (known index (Chain.mem_pending_of_ahead (by simp [Chain.ahead, focus])))
        | some governor =>
            simpa [advanceFacts, advanceReports, advanceChain, enter, focus, found, Chain.returned] using
              Passage.govern focus found
      · simp only [advanceFacts, advanceReports, advanceChain, enter, focus]
        apply passage_of_going <;> simp [Chain.calm_returned, Chain.ahead, focus, List.filterMap_cons]
  | asleep wakeAt rest =>
      simp only [advanceFacts, advanceReports, advanceChain, focus]
      apply passage_of_going <;> simp [Chain.calm_returned, Chain.ahead, focus]
  | leaving ending =>
      cases ahead : chain.duties with
      | cons duty duties =>
          simp only [advanceFacts, advanceReports, advanceChain, leave, focus, ahead]
          refine .stay (fun governor => ?_) ?_ rfl ?_ ?_
          · simp [Chain.not_mem_returned, not_mem_noted]
          · simp [Chain.pending, Chain.posts, focus]
          · simp [focus]
          · simp [Chain.ahead]
      | nil =>
          cases outside : chain.waits with
          | nil =>
              simpa [advanceFacts, advanceReports, advanceChain, leave, focus, ahead, outside] using
                Passage.answer focus outside
          | cons wait waits =>
              simpa [advanceFacts, advanceReports, advanceChain, leave, focus, ahead, outside] using
                Passage.resume (Chain.calm_returned _) focus outside

end Traffic

namespace Passage

variable {traffic : Traffic σ} {chain : Chain σ} {facts : List CallFact} {reports : List (Post × Ending)}
  {parts : List (Chain σ)}

theorem ahead_subset (passage : Passage traffic chain facts reports parts) :
    ∀ part ∈ parts, part.ahead ⊆ chain.ahead := by
  cases passage with
  | stay calm pending waits focus ahead => simpa using ahead
  | govern focus found => simp [Chain.ahead, focus]
  | finish => simp [Chain.ahead]
  | resume => simp [Chain.ahead]
  | answer => simp
  | warn => simp [Chain.ahead]
  | expire => simp [Chain.ahead, Chain.outer, Chain.inner]

/-- A post is reported to, or is still pending. -/
theorem pending_perm (passage : Passage traffic chain facts reports parts) :
    (reports.map Prod.fst ++ parts.flatMap Chain.pending).Perm chain.pending := by
  cases passage with
  | stay calm pending waits focus ahead => simp [pending]
  | govern focus found => simp [Chain.pending, Chain.posts, focus]
  | finish calm focus => simp [Chain.pending, Chain.posts, focus]
  | resume calm focus outside => simp [Chain.pending, Chain.posts, focus, outside]
  | answer focus alone => simp [Chain.pending, Chain.posts, focus, alone, Function.comp_def]
  | warn found due reached => simp [Chain.pending_warned found]
  | @expire _ position wait _ governor calm found due reached known =>
      rw [Chain.pending_cut found (.answered (.error governor.refusal))]
      simp only [List.map_cons, List.map_nil, List.flatMap_cons, List.flatMap_nil, List.append_nil]
      rw [← List.append_assoc]
      exact List.perm_append_comm

/-- What goes on has gone on before. -/
theorem onWay (passage : Passage traffic chain facts reports parts) :
    ∀ part ∈ parts, (∀ ending, part.focus ≠ .leaving ending) →
      (∀ ending, chain.focus ≠ .leaving ending) ∧ part.pending <+: chain.pending := by
  cases passage with
  | stay calm pending waits focus ahead => simp [pending, focus]
  | govern focus found => simp [Chain.pending, Chain.posts, focus]
  | finish calm focus => simp
  | resume calm focus outside => simp
  | answer focus alone => simp
  | warn found due reached => simp [Chain.pending_warned found]
  | @expire _ position wait _ governor calm found due reached known =>
      rw [Chain.pending_cut found (.answered (.error governor.refusal))]
      simp [Chain.outer, Chain.inner]

/-- A task on its way out has been on its way out before, or a post has just been told what it ends with. -/
theorem leaving (passage : Passage traffic chain facts reports parts) :
    ∀ part ∈ parts, ∀ ending, part.focus = .leaving ending →
      (chain.focus = .leaving ending ∧ part.pending <+: chain.pending) ∨
        ∃ post, (post, ending) ∈ reports ∧ post :: part.pending <:+ chain.pending := by
  cases passage with
  | stay calm pending waits focus ahead => simp [pending, focus]
  | govern focus found => simp
  | finish calm focus => simp [Chain.pending, Chain.posts, focus]
  | resume calm focus outside => simp [Chain.pending, Chain.posts, focus, outside]
  | answer focus alone => simp
  | warn found due reached => simp [Chain.pending_warned found]
  | @expire _ position wait _ governor calm found due reached known =>
      rw [Chain.pending_cut found (.answered (.error governor.refusal))]
      intro part mem ending focus
      rcases List.mem_pair.mp mem with rfl | rfl
      · refine .inr ⟨_, ?_, List.suffix_append _ _⟩
        cases focus
        exact List.mem_singleton_self _
      · exact .inl ⟨focus, List.prefix_append _ _⟩

/-- A governor warns only of a call that it watches. -/
theorem exists_of_warned (passage : Passage traffic chain facts reports parts) {index : Nat}
    (warned : .warned index ∈ facts) : ∃ wait ∈ chain.waits, wait.governor = index := by
  cases passage with
  | stay calm => exact absurd warned (calm index).1
  | finish calm => exact absurd warned (calm index).1
  | resume calm => exact absurd warned (calm index).1
  | warn found => exact ⟨_, List.mem_of_getElem? found, by simpa [eq_comm] using warned⟩
  | expire calm => exact absurd warned (by simp [(calm index).1])
  | _ => simp at warned

/-- Only a chain that has nobody else to report to reports to its caller. -/
theorem pending_of_caller (passage : Passage traffic chain facts reports parts) {caller : String} {ending : Ending}
    (told : (.caller caller, ending) ∈ reports) :
    chain.focus = .leaving ending ∧ chain.pending = [.caller caller] := by
  cases passage with
  | answer focus alone =>
      simp only [List.mem_map, Option.mem_toList, Prod.mk.injEq, Post.caller.injEq] at told
      rcases told with ⟨_, waiting, rfl, rfl⟩
      exact ⟨focus, by simp [Chain.pending, Chain.posts, focus, alone, Option.mem_def.mp waiting]⟩
  | _ => simp at told

/-- A task that waits has waited before, or the governor has just warned of it, or has just begun to watch. -/
theorem waits (passage : Passage traffic chain facts reports parts)
    (distinct : (chain.waits.map Wait.governor).Nodup) :
    ∀ part ∈ parts, ∀ wait ∈ part.waits, wait ∈ chain.waits ∧ .warned wait.governor ∉ facts ∨
      (∃ old ∈ chain.waits, .warned old.governor ∈ facts ∧ wait = { old with warnAt := none }) ∨
      ∃ index governor, .governor index ∈ chain.ahead ∧ traffic.governors[index]? = some governor ∧
        wait = ⟨chain.duties, index, governor.warnAt? traffic.now, governor.expireAt? traffic.now⟩ := by
  cases passage with
  | stay calm pending waits =>
      rw [List.forall_mem_singleton, waits]
      exact fun wait mem => .inl ⟨mem, (calm _).1⟩
  | govern focus found =>
      rw [List.forall_mem_singleton]
      intro wait mem
      rcases List.mem_cons.mp mem with rfl | mem
      · exact .inr (.inr ⟨_, _, by simp [Chain.ahead, focus], found, rfl⟩)
      · exact .inl ⟨mem, List.not_mem_nil⟩
  | finish calm =>
      rw [List.forall_mem_singleton]
      exact fun wait mem => .inl ⟨mem, (calm _).1⟩
  | resume calm focus outside =>
      rw [List.forall_mem_singleton, outside]
      exact fun wait mem => .inl ⟨List.mem_cons_of_mem _ mem, (calm _).1⟩
  | answer => simp
  | warn found due reached =>
      rw [List.forall_mem_singleton]
      intro other mem
      rcases Chain.mem_set_waits found distinct mem with rfl | ⟨old, elsewhere⟩
      · exact .inr (.inl ⟨_, List.mem_of_getElem? found, List.mem_singleton_self _, rfl⟩)
      · exact .inl ⟨old, by simpa using elsewhere⟩
  | expire calm found due reached known =>
      intro part mem wait waits
      refine .inl ⟨?_, by simp [(calm _).1]⟩
      rcases List.mem_pair.mp mem with rfl | rfl
      · exact List.mem_of_mem_drop waits
      · exact List.mem_of_mem_take waits

end Passage

end LedgerService
