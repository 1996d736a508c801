import LedgerService.Proofs.Traffic.Slots

/-!
# Promptness

A call passes the layers on its way without a pause, and so does a refusal on its way out. On a patient clock, time
passes only when no task can go on; so nothing that a governor has in mind for such a call can become due.
`CallLaw.prompt` says that on such a clock no governor ever takes notice of a call that is refused, as long as callers
stay.
-/

namespace LedgerService

variable {σ : Type}

/-- A caller goes away. -/
def SwitchboardEvent.isWithdrawal : SwitchboardEvent σ → Bool
  | .withdraw _ => true
  | _ => false

/-- A gate has refused the call. -/
def CallRecord.Refused (record : CallRecord) : Prop := ∃ gate, .refused gate ∈ record.facts

/-- No governor has warned about the call or given up on it. -/
def CallRecord.Unnoticed (record : CallRecord) : Prop :=
  ∀ governor, .warned governor ∉ record.facts ∧ .expired governor ∉ record.facts

namespace Chain

/-- Nothing that a governor has in mind for the chain is due. -/
def Early (now : Nat) (chain : Chain σ) : Prop :=
  ∀ wait ∈ chain.waits, (∀ instant ∈ wait.warnAt, now < instant) ∧ ∀ instant ∈ wait.expireAt, now < instant

/-- The innermost task of the chain is on its way out. -/
def Leaving (chain : Chain σ) : Prop := ∃ ending, chain.focus = .leaving ending

/-- The innermost task of the chain passes layers, one way or the other. -/
def Passing (chain : Chain σ) : Prop := chain.ahead ≠ [] ∨ chain.Leaving

theorem Passing.canAdvance {chain : Chain σ} (passing : chain.Passing) (now : Nat) : chain.canAdvance now = true := by
  rcases passing with entering | ⟨ending, focus⟩
  · unfold ahead at entering
    unfold Chain.canAdvance
    split at entering
    · simp [*]
    · contradiction
  · simp [Chain.canAdvance, focus]

end Chain

theorem Duration.nanoseconds_pos {duration : Duration} (some : duration ≠ .zero) : 0 < duration.nanoseconds := by
  rw [Nat.pos_iff_ne_zero]
  intro none
  apply some
  cases duration
  exact congrArg Duration.mk none

namespace Governor

variable {governor : Governor} {now instant : Nat}

theorem lt_of_mem_warnAt? (due : instant ∈ governor.warnAt? now) : now < instant := by
  rcases Option.ite_none_right_eq_some.mp due with ⟨warns, same⟩
  rw [hasWarning, Bool.and_eq_true, decide_eq_true_eq] at warns
  have positive := Duration.nanoseconds_pos warns.1
  have later := Option.some.inj same
  omega

theorem lt_of_mem_expireAt? (due : instant ∈ governor.expireAt? now) : now < instant := by
  rcases Option.ite_none_right_eq_some.mp due with ⟨limits, same⟩
  have positive := Duration.nanoseconds_pos (of_decide_eq_true limits)
  have later := Option.some.inj same
  omega

end Governor

namespace Move

variable {traffic left : Traffic σ} {chain : Chain σ} {facts : List CallFact} {parts : List (Chain σ)}

/-- Only a call with a layer before it is refused or has a layer before it in the end. -/
theorem ahead_ne_nil (move : Move traffic chain facts left parts)
    (met : (∃ gate, .refused gate ∈ facts) ∨ ∃ part ∈ parts, part.ahead ≠ []) : chain.ahead ≠ [] := by
  intro nothing
  have entrances := move.entrances
  rcases met with ⟨gate, refused⟩ | ⟨part, mem, entering⟩
  · have balance := entrances gate
    have once := List.count_pos_iff.mpr refused
    rw [nothing, List.count_nil] at balance
    omega
  · cases move with
    | finish => simp [Chain.ahead, List.mem_singleton.mp mem] at entering
    | pause => simp [Chain.ahead, List.mem_singleton.mp mem] at entering
    | consult => simp [Chain.ahead, List.mem_singleton.mp mem] at entering
    | wake => simp [Chain.ahead, List.mem_singleton.mp mem] at entering
    | discharge focus =>
        rcases List.mem_singleton.mp mem with rfl
        simp [Chain.ahead, focus] at entering
    | resume => simp [Chain.ahead, List.mem_singleton.mp mem] at entering
    | answer => contradiction
    | warn =>
        rcases List.mem_singleton.mp mem with rfl
        exact entering nothing
    | expire =>
        rcases List.mem_pair.mp mem with rfl | rfl
        · exact entering rfl
        · exact entering nothing
    | _ => simp [Chain.ahead, *] at nothing

/-- A chain that passes layers goes on as one chain, with nothing due, and does not turn back from its way out. -/
theorem of_passing (move : Move traffic chain facts left parts) (passing : chain.Passing)
    (early : chain.Early traffic.now) :
    (∀ governor, .warned governor ∉ facts ∧ .expired governor ∉ facts) ∧ parts.length ≤ 1 ∧
      (∀ part ∈ parts, part.caller = chain.caller ∧ part.Early traffic.now) ∧
      ((∃ gate, .refused gate ∈ facts) ∨ chain.Leaving → ∀ part ∈ parts, part.Leaving) := by
  cases move with
  | refuse focus found full =>
      refine ⟨fun governor => by simp [Chain.not_mem_returned], le_rfl, ?_, ?_⟩
      · rw [List.forall_mem_singleton]
        exact ⟨rfl, early⟩
      · rw [List.forall_mem_singleton]
        exact fun _ => ⟨_, rfl⟩
  | govern focus found =>
      refine ⟨by simp, le_rfl, ?_, ?_⟩
      · rw [List.forall_mem_singleton]
        refine ⟨rfl, fun wait mem => ?_⟩
        rcases List.mem_cons.mp mem with rfl | mem
        · exact ⟨fun _ => Governor.lt_of_mem_warnAt?, fun _ => Governor.lt_of_mem_expireAt?⟩
        · exact early wait mem
      · rintro (⟨gate, refused⟩ | ⟨ending, leaving⟩)
        · simp at refused
        · simp [focus] at leaving
  | finish focus => simp [Chain.Passing, Chain.Leaving, Chain.ahead, focus] at passing
  | pause focus => simp [Chain.Passing, Chain.Leaving, Chain.ahead, focus] at passing
  | consult focus => simp [Chain.Passing, Chain.Leaving, Chain.ahead, focus] at passing
  | wake focus => simp [Chain.Passing, Chain.Leaving, Chain.ahead, focus] at passing
  | discharge focus ahead =>
      refine ⟨fun governor => by simp [Chain.not_mem_returned, not_mem_noted], le_rfl, ?_, ?_⟩
      · rw [List.forall_mem_singleton]
        exact ⟨rfl, early⟩
      · rw [List.forall_mem_singleton]
        exact fun _ => ⟨_, focus⟩
  | resume focus free outside =>
      refine ⟨fun governor => by simp [Chain.not_mem_returned], le_rfl, ?_, ?_⟩
      · rw [List.forall_mem_singleton]
        exact ⟨rfl, fun wait mem => early wait (outside ▸ List.mem_cons_of_mem _ mem)⟩
      · rw [List.forall_mem_singleton]
        exact fun _ => ⟨_, rfl⟩
  | answer => simp
  | warn found due reached =>
      have later := (early _ (List.mem_of_getElem? found)).1 _ due
      omega
  | expire found due reached known =>
      have later := (early _ (List.mem_of_getElem? found)).2 _ due
      omega
  | _ =>
      refine ⟨by simp, le_rfl, ?_, ?_⟩
      · rw [List.forall_mem_singleton]
        exact ⟨rfl, early⟩
      · simp [Chain.Leaving, *]

end Move

/-- The call has one chain, its caller waits, and no governor has taken notice of the call. -/
structure CallRecord.Prompt (now : Nat) (record : CallRecord) (chains : List (Chain σ)) : Prop where
  single : chains.length ≤ 1
  unnoticed : record.Unnoticed
  early : ∀ chain ∈ chains, chain.caller.isSome ∧ chain.Early now

/-- A call that still has layers before it, or that has been refused, is prompt; a refused one is on its way out. -/
theorem CallLaw.prompt {switchboard : Switchboard σ} {given : CallProperty σ} :
    CallLaw switchboard (fun traffic event => !event.isWithdrawal && traffic.isPatient event) given
      fun now record chains =>
        (record.Refused → ∀ chain ∈ chains, chain.Leaving) ∧
          (record.Refused ∨ (∃ chain ∈ chains, chain.ahead ≠ []) → record.Prompt now chains) where
  call now caller method params := by
    refine ⟨?_, fun _ => ⟨le_rfl, ?_, ?_⟩⟩
    · rintro ⟨gate, refused⟩
      simp at refused
    · intro governor
      simp
    · simp [Chain.Early]
  move := by
    intro traffic left record before chain after facts parts serves _ holds move
    rcases holds with ⟨out, prompt⟩
    have was : (record.add facts).Refused ∨ (∃ part ∈ before ++ (parts ++ after), part.ahead ≠ []) →
        record.Refused ∨ ∃ other ∈ before ++ chain :: after, other.ahead ≠ [] := by
      rintro (⟨gate, refused⟩ | ⟨part, mem, entering⟩)
      · rcases List.mem_append.mp refused with new | old
        · exact .inr ⟨chain, by simp, move.ahead_ne_nil (.inl ⟨gate, new⟩)⟩
        · exact .inl ⟨gate, old⟩
      · rcases List.mem_append.mp mem with early | mem
        · exact .inr ⟨part, List.mem_append_left _ early, entering⟩
        rcases List.mem_append.mp mem with new | late
        · exact .inr ⟨chain, by simp, move.ahead_ne_nil (.inr ⟨part, new, entering⟩)⟩
        · exact .inr ⟨part, by simp [late], entering⟩
    -- Under either condition the chain is the only one of the call, and it passes layers.
    have only : record.Refused ∨ (∃ other ∈ before ++ chain :: after, other.ahead ≠ []) →
        before = [] ∧ after = [] ∧ chain.Passing ∧ chain.caller.isSome ∧ chain.Early traffic.now := by
      intro condition
      have single := (prompt condition).single
      simp only [List.length_append, List.length_cons] at single
      have first : before = [] := List.eq_nil_of_length_eq_zero (by omega)
      have last : after = [] := List.eq_nil_of_length_eq_zero (by omega)
      subst first last
      refine ⟨rfl, rfl, ?_, (prompt condition).early chain (by simp)⟩
      rcases condition with refused | ⟨other, mem, entering⟩
      · exact .inr (out refused chain (by simp))
      · rcases List.mem_singleton.mp mem with rfl
        exact .inl entering
    refine ⟨fun refused => ?_, fun condition => ?_⟩
    · rcases only (was (.inl refused)) with ⟨rfl, rfl, passing, -, early⟩
      rcases move.of_passing passing early with ⟨-, -, -, leaving⟩
      rw [List.nil_append, List.append_nil]
      apply leaving
      rcases refused with ⟨gate, refused⟩
      rcases List.mem_append.mp refused with new | old
      · exact .inl ⟨gate, new⟩
      · exact .inr (out ⟨gate, old⟩ chain (by simp))
    · have before' := prompt (was condition)
      rcases only (was condition) with ⟨rfl, rfl, passing, waiting, early⟩
      rcases move.of_passing passing early with ⟨unnoticed, single, stays, -⟩
      rw [List.nil_append, List.append_nil]
      refine ⟨single, fun governor => ?_, fun part mem => ?_⟩
      · have old := before'.unnoticed governor
        have new := unnoticed governor
        rw [CallRecord.add_facts, List.mem_append, List.mem_append]
        exact ⟨not_or.mpr ⟨new.1, old.1⟩, not_or.mpr ⟨new.2, old.2⟩⟩
      · rw [(stays part mem).1]
        exact ⟨waiting, (stays part mem).2⟩
  withdraw allows := by simp [SwitchboardEvent.isWithdrawal] at allows
  elapse := by
    intro traffic instant record chains allows mine _ holds
    have quiet : traffic.isQuiet = true := allows
    refine ⟨holds.1, fun condition => ?_⟩
    have prompt := holds.2 condition
    have still : ∀ chain ∈ chains, ¬ chain.Passing := by
      intro chain mem passing
      have waits := Traffic.isQuiet_iff.mp quiet chain (mine mem)
      rw [passing.canAdvance traffic.now] at waits
      contradiction
    refine ⟨prompt.single, prompt.unnoticed, fun chain mem => ?_⟩
    rcases condition with refused | ⟨other, there, entering⟩
    · exact absurd (.inr (holds.1 refused chain mem)) (still chain mem)
    · exact absurd (.inl entering) (still other there)

end LedgerService
