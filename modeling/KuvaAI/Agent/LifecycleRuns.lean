import KuvaAI.Agent.Lifecycle

/-! Runs of a manager from its creation. The record that each transition builds
names a phase that does not exist, so no manager leaves its first state. -/
namespace KuvaAI.Lifecycle
open Python Effect

section Rules

variable (env : Env) {α : Type} (exn : Interrupt → World → Prop) (w : World)

@[simp] theorem wp_manager (post : Manager → World → Prop) :
    wp manager post exn w ↔ post w.manager w := Iff.rfl

@[simp] theorem wp_update (post : Unit → World → Prop) (f : Manager → Manager) :
    wp (update f) post exn w ↔ post () { w with manager := f w.manager } := Iff.rfl

@[simp] theorem wp_raiseIf (post : Unit → World → Prop) (c : Prop) [Decidable c] (e : Raised) :
    wp (raiseIf c e) post exn w ↔ if c then exn (.raised e) w else post () w := by
  rw [raiseIf, wp_ite]
  rfl

@[simp] theorem wp_lift_ok (post : α → World → Prop) (a : α) :
    wp (lift (.ok a)) post exn w ↔ post a w := Iff.rfl

@[simp] theorem wp_lift_error (post : α → World → Prop) (e : Exn) :
    wp (lift (.error e)) post exn w ↔ exn (.raised (.builtin e)) w := Iff.rfl

theorem wp_outside {post : Unit → World → Prop} {call : Call}
    (returned : env.outcome w.calls call = .ok () → post () { w with calls := w.calls + 1 })
    (interrupted : ∀ i, env.outcome w.calls call = .error i →
      exn i { w with calls := w.calls + 1 }) :
    wp (outside env call) post exn w := by
  simp only [outside, wp_bind, wp_get, wp_set]
  cases ended : env.outcome w.calls call with
  | ok u => exact returned ended
  | error i => exact interrupted i ended

end Rules

def Env.ofSource (registry : List String) (outcome : Nat → Call → Except Interrupt Unit) : Env :=
  { registry, transition := transitionEvent, outcome }

theorem phase_initial (phase : LifecyclePhase) : phase.value.toList.head? = some 'p' := by
  cases phase <;> decide

/-- `LifecyclePhase(...)` as `_set_state` calls it: no member has such a value. -/
theorem no_transition_phase (text : String) :
    LifecyclePhase.ofValue ("transition_to_" ++ text) =
      .error ⟨.valueError, "'" ++ ("transition_to_" ++ text) ++ "' is not a valid LifecyclePhase"⟩ := by
  have absent : LifecyclePhase.all.find?
      (fun phase => phase.value = "transition_to_" ++ text) = none := by
    rw [List.find?_eq_none]
    intro phase _ same
    have initial := phase_initial phase
    have start : "transition_to_".toList = 't' :: "ransition_to_".toList := by decide
    rw [of_decide_eq_true same, String.toList_append, start] at initial
    cases initial
  rw [LifecyclePhase.ofValue, absent]

def unknownPhase (state : AgentState) : Exn :=
  ⟨.valueError, "'" ++ ("transition_to_" ++ state.value) ++ "' is not a valid LifecyclePhase"⟩

theorem transitionEvent_raises (agentType : AgentType) (state : AgentState) :
    transitionEvent agentType state = .error (unknownPhase state) := by
  rw [transitionEvent, no_transition_phase]
  rfl

theorem initializeAgent_raises (registry : List String)
    (outcome : Nat → Call → Except Interrupt Unit) (w : World)
    (created : w.manager.state = .created) :
    wp (initializeAgent (.ofSource registry outcome)) (fun _ _ => False)
      (fun _ t => t.manager.state = .created) w := by
  have transition : (Env.ofSource registry outcome).transition w.manager.agentType .initializing =
      .error (unknownPhase .initializing) := transitionEvent_raises _ _
  simp only [initializeAgent, withLock, wp_bind, wp_manager, wp_raiseIf]
  split
  · exact created
  · apply wp_outside
    · intro _
      simp [setState, created, transition]
    · intro _ _
      exact created

inductive Operation where
  | pause | resume | stop | start
  deriving DecidableEq, Repr

namespace Operation

def run (env : Env) : Operation → Action Unit
  | pause => Lifecycle.pause env
  | resume => Lifecycle.resume env
  | stop => stopManager env
  | start => startManager env

def permits : Operation → AgentState → Bool
  | pause, state => state = .running
  | resume, state => state = .paused
  | stop, state => state = .running ∨ state = .paused ∨ state = .error
  | start, state => state = .initialized ∨ state = .stopped

def target : Operation → AgentState
  | pause => .paused
  | resume => .running
  | stop => .stopped
  | start => .running

end Operation

def Serves (env : Env) : List Operation → World → Prop
  | [], _ => True
  | op :: rest, w => op.permits w.manager.state = true →
      ∃ t, op.run env w = (.ok (), t) ∧ t.manager.state = op.target ∧ Serves env rest t

inductive Up : AgentType → Manager → Prop where
  | intro {module qualname : String} {deps : List (String × AgentType)} {m : Manager}
      (running : m.state = .running) (managerOf : String × AgentType → Manager)
      (present : ∀ dep ∈ deps, managerOf dep ∈ m.dependencies)
      (each : ∀ dep ∈ deps, Up dep.2 (managerOf dep)) :
      Up (.cls module qualname deps) m

/-- A manager can be initialized and started with all it depends on, and serves
every sequence of calls after that. -/
def Operates (env : Env) (w : World) : Prop :=
  ∃ t, enter env w = (.ok (), t) ∧ Up w.manager.agentType t.manager ∧ ∀ ops, Serves env ops t

def fresh (agentType : AgentType) (config : LifecycleConfig) (observability stateStore : Bool)
    (middlewares : Nat) : World :=
  ⟨Manager.init agentType config observability stateStore middlewares, 0⟩

theorem enter_raises (registry : List String) (outcome : Nat → Call → Except Interrupt Unit)
    (w : World) (created : w.manager.state = .created) :
    wp (enter (.ofSource registry outcome)) (fun _ _ => False)
      (fun _ t => t.manager.state = .created) w := by
  rw [enter, wp_bind]
  apply wp_mono (initializeAgent_raises registry outcome w created)
  · intro _ _ impossible
    exact impossible.elim
  · intro _ _ stays
    exact stays

/-- No manager operates, whatever its agent, its configuration and its surroundings:
the first call raises and leaves it as it was created. -/
theorem never_operates (registry : List String) (outcome : Nat → Call → Except Interrupt Unit)
    (agentType : AgentType) (config : LifecycleConfig) (observability stateStore : Bool)
    (middlewares : Nat) :
    ¬ Operates (.ofSource registry outcome)
        (fresh agentType config observability stateStore middlewares) ∧
      ∃ i t, enter (.ofSource registry outcome)
          (fresh agentType config observability stateStore middlewares) = (.error i, t) ∧
        t.manager.state = .created := by
  have raises := enter_raises registry outcome
    (fresh agentType config observability stateStore middlewares) rfl
  constructor
  · rintro ⟨t, entered, _⟩
    exact wp_of_eq_ok raises entered
  · exact exists_of_wp_error raises

def billingAgent : AgentType := .cls "agents.billing" "BillingAgent" []

def defaultConfig : LifecycleConfig := ⟨3, .parallel, true, true⟩

theorem billing_never_starts :
    enter (.ofSource ["BillingAgent"] (fun _ _ => .ok ()))
        (fresh billingAgent defaultConfig false false 0) =
      (.error (.raised (.builtin (unknownPhase .initializing))),
        ⟨Manager.init billingAgent defaultConfig false false 0, 1⟩) ∧
      ¬ Operates (.ofSource ["BillingAgent"] (fun _ _ => .ok ()))
        (fresh billingAgent defaultConfig false false 0) := by
  have entered : enter (.ofSource ["BillingAgent"] (fun _ _ => .ok ()))
        (fresh billingAgent defaultConfig false false 0) =
      (.error (.raised (.builtin (unknownPhase .initializing))),
        ⟨Manager.init billingAgent defaultConfig false false 0, 1⟩) := by
    rfl
  refine ⟨entered, ?_⟩
  rintro ⟨t, ran, _⟩
  rw [entered] at ran
  cases ran

end KuvaAI.Lifecycle
