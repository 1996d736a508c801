import LedgerService.Proofs.Traffic.Journey
import Mathlib.Data.List.Forall2

/-!
# Assembled switchboards

What a switchboard looks like once it is put together. An assembly may fail, and leaves a registry behind in any
case; `Assembly.Yields` speaks of the value that it gives when it does not fail, and is shown piece by piece along
the assembly. `Switchboard.made_of_build` says that every switchboard that is put together is `Made`: the limits
are valid, each method has an idle enclosure with its own limits, and each name leads to the one method with it.
-/

namespace LedgerService

variable {σ : Type}

namespace Assembly

variable {α β : Type}

/-- What the assembly gives, if it does not fail, has a property. -/
def Yields (assembly : Assembly α) (property : α → Prop) : Prop :=
  ∀ registry value, (assembly.run.run registry).1 = .ok value → property value

theorem run_bind (assembly : Assembly α) (next : α → Assembly β) (registry : Registry) :
    (assembly >>= next).run.run registry =
      match assembly.run.run registry with
      | (.ok value, registry) => (next value).run.run registry
      | (.error error, registry) => (.error error, registry) := by
  rw [ExceptT.run_bind, StateT.run_bind]
  cases ran : assembly.run.run registry with
  | mk result left => cases result <;> rfl

namespace Yields

variable {assembly : Assembly α} {property : α → Prop}

theorem pure {value : α} (holds : property value) : (Pure.pure value : Assembly α).Yields property := by
  intro _ _ done
  rcases done
  exact holds

theorem throw (error : SetupError) : (MonadExcept.throw error : Assembly α).Yields property := by
  intro _ _ done
  contradiction

theorem anything (assembly : Assembly α) : assembly.Yields fun _ => True := fun _ _ _ => trivial

/-- An assembly of two steps gives what the second gives, with what the first has given. -/
theorem bind {next : α → Assembly β} {final : β → Prop} (first : assembly.Yields property)
    (second : ∀ value, property value → (next value).Yields final) : (assembly >>= next).Yields final := by
  intro registry value done
  rw [run_bind] at done
  cases ran : assembly.run.run registry with
  | mk result left =>
      rw [ran] at done
      cases result with
      | error error => contradiction
      | ok middle => exact second middle (first registry middle (by rw [ran])) left value done

theorem imp {weaker : α → Prop} (yields : assembly.Yields property) (implies : ∀ value, property value → weaker value) :
    assembly.Yields weaker :=
  fun registry value done => implies value (yields registry value done)

theorem skip {next : α → Assembly β} {final : β → Prop} (second : ∀ value, (next value).Yields final) :
    (assembly >>= next).Yields final :=
  (anything assembly).bind fun value _ => second value

end Yields

end Assembly

/-- The enclosure has the given limits and has seen no requests. -/
def Enclosure.IsIdle (resource : String) (queueLimit : UInt64) (warning maximum : Duration) (enclosure : Enclosure) :
    Prop :=
  enclosure = ⟨.idle resource warning maximum enclosure.governor.meters,
    .idle resource queueLimit enclosure.gate.meters⟩

/-- The enclosure is that of a method before any request. -/
def Method.Encloses (method : Method σ) (enclosure : Enclosure) : Prop :=
  enclosure.IsIdle method.name method.limits.queueLimit method.limits.warning method.limits.maximum

namespace Enclosure

open Assembly

theorem ofMethod_yields (method : String) (limits : MethodLimits) :
    (ofMethod method limits).Yields (IsIdle method limits.queueLimit limits.warning limits.maximum) := by
  refine Yields.skip fun inFlight => ?_
  refine Yields.skip fun rejections => ?_
  refine Yields.skip fun warnings => ?_
  refine Yields.skip fun expirations => ?_
  exact Yields.pure rfl

theorem ofAll_yields (limits : GlobalLimits) :
    (ofAll limits).Yields fun enclosure => limits.validate = .ok () ∧
      enclosure.IsIdle globalResource limits.queueLimit limits.warning limits.maximum := by
  have checked : Yields (ExceptT.mk (pure limits.validate)) fun _ => limits.validate = .ok () := by
    intro _ _ done
    exact done
  refine checked.bind fun _ valid => ?_
  refine Yields.skip fun inFlight => ?_
  refine Yields.skip fun rejections => ?_
  refine Yields.skip fun warnings => ?_
  refine Yields.skip fun expirations => ?_
  exact Yields.pure ⟨valid, rfl⟩

end Enclosure

namespace Dispatcher

variable {α : Type} {dispatcher : Dispatcher α}

theorem isSome_find? {name : String} : (dispatcher.find? name).isSome ↔ name ∈ dispatcher.names := by
  simp [find?, names]

theorem find?_eq_some (distinct : dispatcher.names.Nodup) {name : String} {handler : α} :
    dispatcher.find? name = some handler ↔ (name, handler) ∈ dispatcher.entries := by
  rcases dispatcher with ⟨entries⟩
  simp only [find?, names] at distinct ⊢
  induction entries with
  | nil => simp
  | cons entry entries ih =>
      rcases entry with ⟨other, value⟩
      rw [List.map_cons, List.nodup_cons] at distinct
      by_cases same : other = name
      · subst same
        have elsewhere : (other, handler) ∉ entries := fun mem =>
          distinct.1 (List.mem_map.mpr ⟨_, mem, rfl⟩)
        simp [elsewhere, eq_comm]
      · simp [same, Ne.symm same, ih distinct.2]

end Dispatcher

namespace Switchboard

open Assembly

/-- The entries of methods whose positions start at a number. -/
def entriesFrom (methods : List (Method σ)) (start : Nat) : List (String × Nat × Handler σ) :=
  (methods.zipIdx start).map fun numbered => (numbered.1.name, numbered.2, numbered.1.handler)

theorem addMethods_yields (methods : List (Method σ)) (enclosures : List Enclosure)
    (dispatcher : Dispatcher (Nat × Handler σ)) (distinct : dispatcher.names.Nodup) :
    (addMethods methods enclosures dispatcher).Yields fun made =>
      ∃ added, made.1 = enclosures ++ added ∧ List.Forall₂ Method.Encloses methods added ∧
        made.2.entries = dispatcher.entries ++ entriesFrom methods enclosures.length ∧ made.2.names.Nodup := by
  induction methods generalizing enclosures dispatcher with
  | nil => exact Yields.pure ⟨[], by simp, .nil, by simp [entriesFrom], distinct⟩
  | cons method methods ih =>
      rw [addMethods]
      refine (Enclosure.ofMethod_yields method.name method.limits).bind fun enclosure encloses => ?_
      simp only [Dispatcher.insert]
      by_cases taken : (dispatcher.find? method.name).isSome
      · simp only [taken, if_true, Bool.not_false]
        exact (Yields.throw _).bind fun _ never => never
      · simp only [taken, Bool.false_eq_true, if_false, Bool.not_true]
        have fresh : method.name ∉ dispatcher.names := by
          rwa [← Dispatcher.isSome_find?]
        refine (ih _ _ ?_).imp ?_
        · rw [Dispatcher.names, List.map_append, List.map_singleton, List.nodup_append]
          refine ⟨distinct, List.nodup_singleton _, ?_⟩
          rintro name mem other own rfl
          rcases List.mem_singleton.mp own with rfl
          exact fresh mem
        · rintro made ⟨added, same, all, entries, names⟩
          refine ⟨enclosure :: added, by simpa using same, .cons encloses all, ?_, names⟩
          rw [entries]
          simp [entriesFrom]

/-- What becomes of a switchboard, if it has been found out by evaluation. -/
theorem exists_of_check {α : Type} (methods : List (Method σ)) (limits : GlobalLimits)
    (outcome : Switchboard σ → Option α) (check : Switchboard σ → α → Bool)
    (checked : ((build methods limits).toOption.any fun switchboard =>
      (outcome switchboard).any (check switchboard)) = true) :
    ∃ switchboard last, build methods limits = .ok switchboard ∧ outcome switchboard = some last ∧
      check switchboard last = true := by
  cases built : build methods limits with
  | error error => simp [built, Except.toOption] at checked
  | ok switchboard =>
      cases run : outcome switchboard with
      | none => simp [built, Except.toOption, run] at checked
      | some last =>
          refine ⟨switchboard, last, rfl, run, ?_⟩
          simpa [built, Except.toOption, run] using checked

/-- A run of a switchboard that has been found out by evaluation. -/
theorem exists_run_of_check (methods : List (Method σ)) (limits : GlobalLimits) (surroundings : σ)
    (events : List (SwitchboardEvent σ)) (check : Chronicle σ → Bool)
    (checked : ((build methods limits).toOption.any fun switchboard =>
      ((Chronicle.start switchboard surroundings).run? switchboard events).any check) = true) :
    ∃ switchboard chronicle, build methods limits = .ok switchboard ∧
      (Chronicle.start switchboard surroundings).run? switchboard events = some chronicle ∧
      check chronicle = true :=
  exists_of_check methods limits (fun switchboard => (Chronicle.start switchboard surroundings).run? switchboard events)
    (fun _ => check) checked

/-- A switchboard that is put together of methods and limits. -/
structure Made (methods : List (Method σ)) (limits : GlobalLimits) (switchboard : Switchboard σ) : Prop where
  valid : limits.validate = .ok ()
  outermost : switchboard.outermost.IsIdle globalResource limits.queueLimit limits.warning limits.maximum
  enclosures : List.Forall₂ Method.Encloses methods switchboard.enclosures
  entries : switchboard.methods.entries = entriesFrom methods 0
  distinct : switchboard.methods.names.Nodup

theorem made_of_build {methods : List (Method σ)} {limits : GlobalLimits} {switchboard : Switchboard σ}
    (built : build methods limits = .ok switchboard) : switchboard.Made methods limits := by
  have assembled : (assemble methods limits).Yields fun switchboard => switchboard.Made methods limits := by
    refine Yields.skip fun histogram => ?_
    refine (addMethods_yields methods [] .empty List.nodup_nil).bind ?_
    rintro ⟨enclosures, dispatcher⟩ ⟨added, same, all, entries, distinct⟩
    refine (Enclosure.ofAll_yields limits).bind fun outermost idle => ?_
    refine Yields.pure ⟨idle.1, idle.2, ?_, ?_, distinct⟩
    · rcases same
      exact all
    · simpa [Dispatcher.empty] using entries
  exact assembled _ _ built

namespace Made

variable {methods : List (Method σ)} {limits : GlobalLimits} {switchboard : Switchboard σ}

theorem find?_eq_some (made : switchboard.Made methods limits) {name : String} {position : Nat}
    {handler : Handler σ} :
    switchboard.methods.find? name = some (position, handler) ↔
      ∃ method, methods[position]? = some method ∧ method.name = name ∧ method.handler = handler := by
  rw [Dispatcher.find?_eq_some made.distinct, made.entries]
  simp [entriesFrom, List.mem_zipIdx_iff_getElem?]

theorem sound (made : switchboard.Made methods limits) : switchboard.Sound := by
  intro name position handler known
  rcases made.find?_eq_some.mp known with ⟨method, there, -⟩
  rw [← made.enclosures.length_eq]
  exact (List.getElem?_eq_some_iff.mp there).1

theorem enclosure (made : switchboard.Made methods limits) {position : Nat} {method : Method σ}
    (there : methods[position]? = some method) :
    ∃ enclosure, switchboard.enclosures[position]? = some enclosure ∧ method.Encloses enclosure := by
  rcases List.getElem?_eq_some_iff.mp there with ⟨bound, rfl⟩
  have bound' : position < switchboard.enclosures.length := made.enclosures.length_eq ▸ bound
  exact ⟨_, List.getElem?_eq_getElem bound', made.enclosures.get bound bound'⟩

end Made

end Switchboard

end LedgerService
