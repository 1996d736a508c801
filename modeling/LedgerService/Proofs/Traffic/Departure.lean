import LedgerService.Proofs.Traffic.Course
import LedgerService.Proofs.Traffic.Watches
import Mathlib.Algebra.Order.BigOperators.Group.List

/-!
# Departures

What is left of a call whose caller goes away. The outermost task is gone with the caller, and the posts that it would
have reported to are dropped; everything inside goes on as before. `Course.of_withdrawal` says that the call stays on
its course to the posts that are left, and which are dropped: the caller, at most with the outermost governor, unless
the call has not come to any governor yet. Then it is gone, and no gate has let it in (`Chronicle.unadmitted_of_run`).
-/

namespace LedgerService

variable {σ : Type}

section

variable {α : Type} {front back part : List α}

/-- Nothing follows the last element of a list without duplicates. -/
theorem eq_nil_of_append_last {last : α} (before : List α) {after : List α} (nodup : (front ++ [last]).Nodup)
    (split : before ++ (part ++ [last]) ++ after = front ++ [last]) : after = [] := by
  rcases List.eq_nil_or_concat' after with none | ⟨after, final, rfl⟩
  · exact none
  · have same : (before ++ (part ++ [last]) ++ after) ++ [final] = front ++ [last] := by simpa using split
    rcases List.append_inj' same rfl with ⟨rfl, ends⟩
    have repeated : last ∈ before ++ (part ++ [last]) ++ after := by simp
    exact absurd rfl ((List.nodup_append.mp nodup).2.2 last repeated last List.mem_cons_self)

/-- What ends in the front of a list without duplicates has its whole place there. -/
theorem prefix_front_of_subset (before : List α) (nodup : (front ++ back).Nodup)
    (whole : before ++ part <+: front ++ back) (some : part ≠ []) (inside : part ⊆ front) :
    before ++ part <+: front := by
  rcases List.prefix_or_prefix_of_prefix whole (List.prefix_append front back) with short | ⟨beyond, long⟩
  · exact short
  · rcases List.eq_nil_or_concat' beyond with rfl | ⟨beyond, final, rfl⟩
    · simp [← long]
    · have last : final ∈ part := by
        rcases List.eq_nil_or_concat' part with none | ⟨part, other, rfl⟩
        · exact absurd none some
        · have same : (front ++ beyond) ++ [final] = (before ++ part) ++ [other] := by simpa using long
          simp [List.singleton_inj.mp (List.append_inj' same rfl).2]
      rw [← long, List.prefix_append_right_inj] at whole
      have dropped : final ∈ back := whole.subset (by simp)
      exact absurd rfl ((List.nodup_append.mp nodup).2.2 final (inside last) final dropped)

theorem infix_front_of_subset (nodup : (front ++ back).Nodup) (within : part <:+: front ++ back)
    (inside : part ⊆ front) : part <:+: front := by
  rcases part with _ | ⟨first, rest⟩
  · exact List.nil_infix
  · rcases within with ⟨before, after, same⟩
    have short := prefix_front_of_subset before nodup ⟨after, same⟩ (List.cons_ne_nil first rest) inside
    exact (List.suffix_append before _).isInfix.trans short.isInfix

end

/-- The caller is the last to whom a chain reports. -/
theorem Chain.pending_eq_concat {chain : Chain σ} {caller : String} (waiting : chain.caller = some caller) :
    ∃ inside, chain.pending = inside ++ [.caller caller] := by
  have posts : chain.posts = (chain.waits.map fun wait => Post.governor wait.governor) ++ [.caller caller] := by
    simp [Chain.posts, waiting]
  by_cases going : ∀ ending, chain.focus ≠ .leaving ending
  · refine ⟨.work :: ((chain.ahead.filterMap Layer.post?).reverse ++
      chain.waits.map fun wait => .governor wait.governor), ?_⟩
    rw [Chain.pending_of_going going, posts]
    simp
  · rcases not_forall_not.mp going with ⟨ending, focus⟩
    exact ⟨_, (Chain.pending_of_leaving focus).trans posts⟩

namespace Withdrawal

variable {traffic left : Traffic σ} {chain : Chain σ} {facts : List CallFact} {parts : List (Chain σ)}

/-- With the caller a chain loses the posts from its outermost governor on, or all of them. -/
theorem exists_dropped (withdrawal : Withdrawal traffic chain facts left parts) {caller : String}
    (waiting : chain.caller = some caller) :
    ∃ dropped, parts.flatMap Chain.pending ++ dropped = chain.pending ∧
      (dropped.length ≤ 2 ∨ parts = [] ∧ chain.waits = [] ∧ ∀ ending, chain.focus ≠ .leaving ending) := by
  cases withdrawal with
  | vanish alone =>
      refine ⟨chain.pending, rfl, ?_⟩
      by_cases going : ∀ ending, chain.focus ≠ .leaving ending
      · exact .inr ⟨rfl, alone, going⟩
      · rcases not_forall_not.mp going with ⟨ending, focus⟩
        simp [Chain.pending_of_leaving focus, Chain.posts, alone, waiting]
  | @detach waits outermost outside =>
      refine ⟨[.governor outermost.governor, .caller caller], ?_, .inl le_rfl⟩
      cases focus : chain.focus <;> simp [Chain.pending, Chain.posts, focus, outside, waiting]

/-- What is left of a chain is where the chain was. -/
theorem inside (withdrawal : Withdrawal traffic chain facts left parts) :
    ∀ part ∈ parts, parts = [part] ∧ part.focus = chain.focus ∧ part.waits ⊆ chain.waits := by
  cases withdrawal with
  | vanish => simp
  | detach outside => simp [outside]

end Withdrawal

namespace Course

variable {governors : List Governor} {route : List Post} {times : CallTimes} {facts new : List CallFact}
  {traffic left : Traffic σ} {chain : Chain σ} {before after parts : List (Chain σ)} {caller : String}

/-- A task of a call has somebody to report to. -/
theorem route_ne_nil {now : Nat} {chains : List (Chain σ)} (course : Course governors route now times facts chains)
    (mem : chain ∈ chains) : route ≠ [] := by
  rintro rfl
  by_cases going : ∀ ending, chain.focus ≠ .leaving ending
  · have none := course.onWay chain mem going
    simp [Chain.pending_of_going going] at none
  · rcases not_forall_not.mp going with ⟨ending, focus⟩
    rcases course.leaving chain mem ending focus with ⟨post, -, part⟩
    simp at part

/-- Nobody is reported to after the caller. -/
theorem exists_outside {now : Nat} {chains : List (Chain σ)} {inside : List Post}
    (course : Course governors (inside ++ [.caller caller]) now times facts chains)
    (distinct : (inside ++ [Post.caller caller]).Nodup) (mem : chain ∈ chains) (waiting : chain.caller = some caller) :
    ∃ told, told ++ chain.pending = inside ++ [.caller caller] ∧
      ((∀ ending, chain.focus ≠ .leaving ending) → told = []) := by
  rcases Chain.pending_eq_concat waiting with ⟨own, pending⟩
  by_cases going : ∀ ending, chain.focus ≠ .leaving ending
  · rcases course.onWay chain mem going with ⟨beyond, whole⟩
    rw [pending] at whole
    rw [eq_nil_of_append_last [] distinct whole] at whole
    exact ⟨[], by simpa [pending] using whole, fun _ => rfl⟩
  · rcases not_forall_not.mp going with ⟨ending, focus⟩
    rcases course.leaving chain mem ending focus with ⟨post, -, earlier, beyond, whole⟩
    have split : (earlier ++ [post]) ++ (own ++ [.caller caller]) ++ beyond = inside ++ [.caller caller] := by
      simpa [pending] using whole
    rw [eq_nil_of_append_last _ distinct split] at split
    exact ⟨earlier ++ [post], by simpa [pending] using split, fun still => absurd still going⟩

/-- A call whose caller goes away stays on its course to the posts that are left. -/
theorem of_withdrawal {inside : List Post}
    (course : Course governors (inside ++ [.caller caller]) traffic.now times facts (before ++ chain :: after))
    (distinct : (inside ++ [Post.caller caller]).Nodup) (waiting : chain.caller = some caller)
    (withdrawal : Withdrawal traffic chain new left parts) :
    ∃ rest dropped, rest ++ dropped = inside ++ [.caller caller] ∧
      (dropped.length ≤ 2 ∨ rest = [] ∧ chain.waits = [] ∧ ∀ ending, chain.focus ≠ .leaving ending) ∧
      Course governors rest traffic.now times (new ++ facts) (before ++ (parts ++ after)) := by
  have mine : chain ∈ before ++ chain :: after := by simp
  rcases course.exists_outside distinct mine waiting with ⟨told, whole, early⟩
  rcases withdrawal.exists_dropped waiting with ⟨dropped, split, few⟩
  have route : (told ++ parts.flatMap Chain.pending) ++ dropped = inside ++ [.caller caller] := by
    rw [List.append_assoc, split, whole]
  refine ⟨told ++ parts.flatMap Chain.pending, dropped, route, ?_, ?_⟩
  · apply few.imp_right
    rintro ⟨rfl, alone, going⟩
    exact ⟨by simpa using early going, alone, going⟩
  generalize told ++ parts.flatMap Chain.pending = rest at route
  rw [← route] at course distinct
  have pending : (times.told.map Prod.fst ++ (before ++ (parts ++ after)).flatMap Chain.pending).Perm rest := by
    rw [List.perm_iff_count]
    intro post
    have balance := course.pending.count_eq post
    simp only [List.flatMap_append, List.flatMap_cons, List.count_append, ← split] at balance ⊢
    omega
  have silent : ∀ index, .warned index ∉ new ∧ .expired index ∉ new := fun index =>
    ⟨withdrawal.not_mem (by simp), withdrawal.not_mem (by simp)⟩
  have reporting : ∀ other ∈ before ++ (parts ++ after), other.pending ⊆ rest := fun other mem post mine =>
    pending.subset (List.mem_append_right _ (List.mem_flatMap.mpr ⟨other, mem, mine⟩))
  have reported : ∀ {post instant ending}, times.Tells post instant ending → post ∈ rest := fun told =>
    pending.subset (List.mem_append_left _ (List.mem_map.mpr ⟨_, told, rfl⟩))
  have shorter : ∀ other ∈ before ++ (parts ++ after), ∃ old ∈ before ++ chain :: after,
      other.pending <+: old.pending ∧ other.focus = old.focus ∧ other.waits ⊆ old.waits := by
    intro other mem
    simp only [List.mem_append, List.mem_cons] at mem ⊢
    rcases mem with before | part | after
    · exact ⟨other, .inl before, List.prefix_rfl, rfl, List.Subset.refl _⟩
    · rcases withdrawal.inside other part with ⟨rfl, focus, waits⟩
      exact ⟨chain, .inr (.inl rfl), ⟨dropped, by simpa using split⟩, focus, waits⟩
    · exact ⟨other, .inr (.inr after), List.prefix_rfl, rfl, List.Subset.refl _⟩
  have onWay : ∀ {part : List Post}, part <:+: rest → part <:+: rest ++ dropped := fun within =>
    within.trans (List.prefix_append rest dropped).isInfix
  refine ⟨pending, ?_, ?_, ?_, ?_, ?_, ?_⟩
  · intro other mem going
    rcases shorter other mem with ⟨old, known, short, focus, -⟩
    have some : other.pending ≠ [] := by
      rw [Chain.pending_of_going going]
      exact List.cons_ne_nil _ _
    exact prefix_front_of_subset [] distinct (short.trans (course.onWay old known (focus ▸ going))) some
      (reporting other mem)
  · intro other mem ending focus
    rcases shorter other mem with ⟨old, known, short, same, -⟩
    rcases course.leaving old known ending (same ▸ focus) with ⟨post, told, part⟩
    refine ⟨post, told, infix_front_of_subset distinct ?_ (List.cons_subset.mpr ⟨reported told, reporting other mem⟩)⟩
    exact ((List.prefix_cons_inj post).mpr short).isInfix.trans part
  · intro other mem index ahead
    rcases shorter other mem with ⟨old, known, -, focus, -⟩
    have same : other.ahead = old.ahead := by simp [Chain.ahead, focus]
    simpa [silent] using course.ahead old known index (same ▸ ahead)
  · intro other mem wait waits
    rcases shorter other mem with ⟨old, known, -, -, kept⟩
    exact (course.waits old known wait (kept waits)).of_facts (silent _).1
  · intro inside index pair
    rcases course.vigils inside index (onWay pair) with ⟨governor, there, vigil⟩
    refine ⟨governor, there, ?_⟩
    simpa [List.count_append, List.count_eq_zero.mpr (silent index).1, List.count_eq_zero.mpr (silent index).2]
      using vigil
  · exact fun inside other pair => course.answers inside other (onWay pair)

end Course

/-- The frames at a depth are those of the governors on the way. -/
theorem Depth.map_governor_behind (passed : List Layer) :
    ((behind passed).frames.map fun frame => Post.governor frame.governor) =
      (passed.filterMap Layer.post?).reverse := by
  induction passed using List.reverseRecOn with
  | nil => rfl
  | append_singleton passed layer ih =>
      rw [behind_concat, List.filterMap_append, List.reverse_append, ← ih]
      cases layer <;> simp [pass, List.filterMap_cons]

/-- A chain that its caller waits for alone has its whole way ahead, if that begins with a governor. -/
theorem Chain.Fits.ahead_of_alone {chain : Chain σ} {index : Nat} {layers : List Layer}
    (fits : chain.Fits (.governor index :: layers)) (waiting : chain.caller.isSome) (alone : chain.waits = [])
    (going : ∀ ending, chain.focus ≠ .leaving ending) : chain.ahead = .governor index :: layers := by
  rcases fits with ⟨passed, located⟩
  have frames := located.whole waiting
  have governors := Depth.map_governor_behind passed
  rw [← frames, alone] at governors
  rcases passed with _ | ⟨first, passed⟩
  · exact (located.busy going).2
  · rcases (List.cons_prefix_cons.mp located.onWay).1
    simp at governors

theorem Switchboard.exists_layers (switchboard : Switchboard σ) (method : String) :
    ∃ layers, switchboard.layers method = .governor 0 :: layers := by
  cases known : switchboard.methods.find? method with
  | none => exact ⟨_, layers_of_none known⟩
  | some found => exact ⟨_, layers_of_some known⟩

/-- No gate has let in a call that has not come to any governor. -/
theorem Chronicle.unadmitted_of_run {switchboard : Switchboard σ} {surroundings : σ}
    {events : List (SwitchboardEvent σ)} {chronicle : Chronicle σ} (sound : switchboard.Sound)
    (run : (start switchboard surroundings).run? switchboard events = some chronicle) {call : Nat}
    {record : CallRecord} (known : chronicle.calls[call]? = some record) {chain : Chain σ}
    (mem : chain ∈ chronicle.chainsOf call) (waiting : chain.caller.isSome) (alone : chain.waits = [])
    (going : ∀ ending, chain.focus ≠ .leaving ending) (gate : Nat) : .admitted gate ∉ record.facts := by
  have fits := satisfies_of_run (CallLaw.fits sound) run call record known chain mem
  have entrances := satisfies_of_run (CallLaw.entrances gate) run call record known
  rcases switchboard.exists_layers record.method with ⟨layers, way⟩
  simp only [way] at fits entrances
  have own := List.le_sum_of_mem (List.mem_map_of_mem (f := fun chain => chain.ahead.count (.gate gate)) mem)
  rw [fits.ahead_of_alone waiting alone going] at own
  rw [← List.count_eq_zero]
  omega

end LedgerService
