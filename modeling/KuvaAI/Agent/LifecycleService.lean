import KuvaAI.Agent.LifecycleRuns

/-! The five operations once a transition can be recorded. A manager then serves
every sequence of permitted calls exactly when its agent declares no dependency:
the managers of dependencies are created but never initialized, so they cannot be
started. -/
namespace KuvaAI.Lifecycle
open Python Effect

structure Quiet (env : Env) : Prop where
  silent : ∀ n call, env.outcome n call = .ok ()
  recorded : ∀ agentType state, ∃ event, env.transition agentType state = .ok event

/-- A normal end of `x` takes managers with `P` to managers with `Q`. `tolerant`
is what an exception has to show: nothing where it is true, and that there is none
where it is false. -/
abbrev Takes (tolerant : Prop) (P : Manager → Prop) (x : Action Unit) (Q : Manager → Prop) : Prop :=
  Triple (fun w => P w.manager) x (fun _ w => Q w.manager) (fun _ _ => tolerant)

section Rules

variable {env : Env} {tolerant : Prop} {P Q R : Manager → Prop}

theorem takes_return : Takes tolerant P (return ()) P :=
  fun _ holds => holds

theorem takes_seq {x y : Action Unit} (first : Takes tolerant P x Q) (rest : Takes tolerant Q y R) :
    Takes tolerant P (do x; y) R :=
  first.bind fun _ => rest

theorem takes_manager {f : Manager → Action Unit} (runs : ∀ m, P m → Takes tolerant P (f m) Q) :
    Takes tolerant P (manager >>= f) Q := by
  intro w holds
  exact runs w.manager holds w holds

theorem takes_update {f : Manager → Manager} (moves : ∀ m, P m → Q (f m)) :
    Takes tolerant P (update f) Q :=
  fun w holds => moves w.manager holds

theorem takes_raiseIf {c : Prop} [Decidable c] {e : Raised} (passes : ¬ c) :
    Takes tolerant P (raiseIf c e) P := by
  intro w holds
  rw [wp_raiseIf, if_neg passes]
  exact holds

variable (calm : Quiet env ∨ tolerant)
include calm

theorem tolerates {n : Nat} {call : Call} {i : Interrupt} (ended : env.outcome n call = .error i) :
    tolerant := by
  rcases calm with quiet | tolerated
  · rw [quiet.silent] at ended
    cases ended
  · exact tolerated

theorem takes_outside (call : Call) : Takes tolerant P (outside env call) P := by
  intro w holds
  apply wp_outside
  · exact fun _ => holds
  · exact fun _ ended => tolerates calm ended

theorem takes_setState {newState : AgentState}
    (moves : ∀ m events, P m → Q { m with state := newState, lifecycleEvents := events }) :
    Takes tolerant P (setState env newState) Q := by
  apply takes_manager
  intro m _ w holds
  rw [wp_bind]
  cases recorded : env.transition m.agentType newState with
  | error e =>
    rcases calm with quiet | tolerated
    · obtain ⟨event, found⟩ := quiet.recorded m.agentType newState
      rw [recorded] at found
      cases found
    · exact tolerated
  | ok event =>
    rw [wp_lift_ok]
    refine takes_seq (takes_update (fun m holds => moves m _ holds)) ?_ w holds
    apply Triple.ite
    · exact takes_outside calm _
    · exact takes_return

theorem takes_runMiddlewares (phase : LifecyclePhase) :
    Takes tolerant P (runMiddlewares env phase) P := by
  have times : ∀ n, Takes tolerant P (runMiddlewaresTimes env phase n) P := by
    intro n
    induction n with
    | zero => exact takes_return
    | succ n ih =>
      apply takes_seq _ ih
      intro w holds
      rw [runMiddleware, wp_tryCatch]
      apply wp_outside
      · exact fun _ => holds
      · intro i ended
        cases i with
        | raised e => exact holds
        | cancelled => exact tolerates calm ended
  apply takes_manager
  exact fun m _ => times m.middlewares

theorem takes_cancelTask : Takes tolerant P (cancelTask env) P := by
  apply takes_manager
  intro m _
  apply Triple.ite
  · intro w holds
    rw [wp_tryCatch]
    apply wp_outside
    · exact fun _ => holds
    · intro i ended
      cases i with
      | raised e => exact tolerates calm ended
      | cancelled => exact holds
  · exact takes_return

theorem takes_instanceHook (method : String) (built : ∀ m, P m → m.agentInstance = true) :
    Takes tolerant P (instanceHook env method) P := by
  apply takes_manager
  intro m holds
  rw [if_pos (built m holds)]
  exact takes_outside calm _

theorem takes_loadState (named : ∀ m, P m → ∃ id, m.agentType.agentId = .ok id) :
    Takes tolerant P (loadState env) P := by
  apply takes_manager
  intro m holds
  obtain ⟨id, known⟩ := named m holds
  apply Triple.ite
  · rw [known]
    exact takes_outside calm _
  · exact takes_return

theorem takes_saveState (named : ∀ m, P m → ∃ id, m.agentType.agentId = .ok id)
    (built : ∀ m, P m → m.agentInstance = true) : Takes tolerant P (saveState env) P := by
  apply takes_manager
  intro m holds
  obtain ⟨id, known⟩ := named m holds
  apply Triple.ite
  · rw [known]
    exact takes_seq (takes_instanceHook calm _ built) (takes_outside calm _)
  · exact takes_return

theorem takes_withLock {I J : Manager → Prop} {body : Action Unit}
    (unlocked : ∀ m, P m → m.locked = false) (locks : ∀ m, P m → I { m with locked := true })
    (unlocks : ∀ m, J m → Q { m with locked := false }) (runs : Takes tolerant I body J) :
    Takes tolerant P (withLock env body) Q := by
  apply takes_manager
  intro m holds
  apply takes_seq (takes_raiseIf (by simp [unlocked m holds]))
  apply takes_seq (takes_outside calm _)
  apply takes_seq (takes_update locks)
  intro w locked
  rw [wp_finallyDo]
  apply wp_mono (runs w locked)
  · exact fun _ t reached => unlocks t.manager reached
  · exact fun _ _ tolerated => tolerated

end Rules

theorem takes_attempt {env : Env} {tolerant : Prop} {P Q : Manager → Prop} (failure : String)
    {body : Action Unit} (runs : Takes tolerant P body Q) :
    Takes tolerant P (attempt env failure body) Q := by
  apply runs.tryCatch
  intro i w tolerated
  cases i with
  | raised e =>
    rw [wp_bind]
    exact wp_of_forall (fun _ _ => tolerated) (fun _ _ => tolerated)
  | cancelled => exact tolerated

/-- A manager of a class with dependencies `deps`, in a given state, whose
dependency managers are as `children` says. -/
structure Shape (deps : List (String × AgentType)) (children : List Manager → Prop)
    (locked built : Bool) (state : AgentState) (m : Manager) : Prop where
  agent : ∃ module qualname, m.agentType = .cls module qualname deps
  managers : children m.dependencies
  lock : m.locked = locked
  made : m.agentInstance = built
  at_state : m.state = state

section Shapes

variable {env : Env} {tolerant : Prop} (calm : Quiet env ∨ tolerant)
  {deps : List (String × AgentType)} {children : List Manager → Prop} {locked built : Bool}
  {state : AgentState}

theorem Shape.named (m : Manager) (shape : Shape deps children locked built state m) :
    ∃ id, m.agentType.agentId = .ok id := by
  obtain ⟨module, qualname, agent⟩ := shape.agent
  exact ⟨module ++ "." ++ qualname, by rw [agent]; rfl⟩

theorem Shape.moved (newState : AgentState) (m : Manager) (events : List LifecycleEvent)
    (shape : Shape deps children locked built state m) :
    Shape deps children locked built newState
      { m with state := newState, lifecycleEvents := events } :=
  { shape with at_state := rfl }

theorem Shape.relocked (now : Bool) (m : Manager)
    (shape : Shape deps children locked built state m) :
    Shape deps children now built state { m with locked := now } :=
  { shape with lock := rfl }

theorem Shape.tasked (m : Manager) (shape : Shape deps children locked built state m) :
    Shape deps children locked built state { m with task := true } :=
  { shape with }

include calm

theorem takes_operation {children' : List Manager → Prop} {built' : Bool} {refuses : Manager → Prop}
    [DecidablePred refuses] {refusal : Manager → Raised} {transit target : AgentState}
    {failure : String} {body : Manager → Action Unit}
    (passes : ∀ m, m.state = state → ¬ refuses m)
    (runs : ∀ m, Takes tolerant (Shape deps children true built transit) (body m)
      (Shape deps children' true built' target)) :
    Takes tolerant (Shape deps children false built state)
      (withLock env do
        let m ← manager
        raiseIf (refuses m) (refusal m)
        setState env transit
        attempt env failure (body m))
      (Shape deps children' false built' target) := by
  apply takes_withLock calm (fun m shape => shape.lock) (Shape.relocked true)
    (Shape.relocked false)
  apply takes_manager
  intro m shape
  apply takes_seq (takes_raiseIf (passes m shape.at_state))
  apply takes_seq (takes_setState calm (Shape.moved transit))
  exact takes_attempt failure (runs m)

theorem initializeAgent_takes {children' : List Manager → Prop}
    (resolves : Takes tolerant (Shape deps children true false .initializing)
      (resolveDependencies env) (Shape deps children' true false .initializing)) :
    Takes tolerant (Shape deps children false false .created) (initializeAgent env)
      (Shape deps children' false true .initialized) := by
  refine takes_operation calm (fun m created => by simp [created]) fun _ => ?_
  apply takes_seq (takes_loadState calm Shape.named)
  apply takes_seq resolves
  apply takes_seq (takes_runMiddlewares calm _)
  have constructs : Takes tolerant (Shape deps children' true false .initializing)
      (construct env) (Shape deps children' true true .initializing) := by
    apply takes_manager
    intro m shape
    obtain ⟨module, qualname, agent⟩ := shape.agent
    rw [agent]
    apply takes_seq (takes_outside calm _)
    exact takes_update fun m shape => { shape with made := rfl }
  apply takes_seq constructs
  apply takes_seq (takes_instanceHook calm _ fun m shape => shape.made)
  apply takes_seq (takes_saveState calm Shape.named fun m shape => shape.made)
  apply takes_seq (takes_runMiddlewares calm _)
  exact takes_setState calm (Shape.moved .initialized)

theorem startWith_takes (startable : state = .initialized ∨ state = .stopped)
    {children' : List Manager → Prop} {startDependencies : Action Unit}
    (starts : Takes tolerant (Shape deps children true true .starting) startDependencies
      (Shape deps children' true true .starting)) :
    Takes tolerant (Shape deps children false true state) (startWith env startDependencies)
      (Shape deps children' false true .running) := by
  refine takes_operation calm ?_ fun _ => ?_
  · rintro m rfl
    rcases startable with initialized | stopped
    · simp [initialized]
    · simp [stopped]
  apply takes_seq starts
  apply takes_seq (takes_runMiddlewares calm _)
  apply takes_manager
  intro m shape
  apply takes_seq (takes_raiseIf (by simp [shape.made]))
  apply takes_seq (takes_instanceHook calm _ fun m shape => shape.made)
  apply takes_seq (takes_update Shape.tasked)
  apply takes_seq (takes_runMiddlewares calm _)
  exact takes_setState calm (Shape.moved .running)

theorem stopWith_takes (stoppable : state = .running ∨ state = .paused ∨ state = .error)
    {stopDependencies : Action Unit}
    (stops : Takes tolerant (Shape deps children true true .stopping) stopDependencies
      (Shape deps children true true .stopping)) :
    Takes tolerant (Shape deps children false true state) (stopWith env stopDependencies)
      (Shape deps children false true .stopped) := by
  refine takes_operation calm ?_ fun _ => ?_
  · rintro m rfl
    rcases stoppable with running | paused | error
    · simp [running]
    · simp [paused]
    · simp [error]
  apply takes_seq (takes_runMiddlewares calm _)
  apply takes_seq (takes_instanceHook calm _ fun m shape => shape.made)
  apply takes_seq (takes_cancelTask calm)
  apply takes_seq stops
  apply takes_seq (takes_saveState calm Shape.named fun m shape => shape.made)
  apply takes_seq (takes_runMiddlewares calm _)
  exact takes_setState calm (Shape.moved .stopped)

theorem switch_takes {verb hook failure : String} {source transit target : AgentState}
    {pre post : LifecyclePhase} :
    Takes tolerant (Shape deps children false true source)
      (switch env verb hook source transit target pre post failure)
      (Shape deps children false true target) := by
  refine takes_operation calm (fun m same => by simp [same]) fun _ => ?_
  apply takes_seq (takes_runMiddlewares calm _)
  apply takes_seq (takes_instanceHook calm _ fun m shape => shape.made)
  apply takes_seq (takes_runMiddlewares calm _)
  exact takes_setState calm (Shape.moved target)

end Shapes

structure Waiting (count : Nat) (managers : List Manager) : Prop where
  length_eq : managers.length = count
  created : ∀ m ∈ managers, m.state = .created
  unlocked : ∀ m ∈ managers, m.locked = false

theorem waiting_zero {managers : List Manager} (waiting : Waiting 0 managers) : managers = [] :=
  List.length_eq_zero_iff.mp waiting.length_eq

theorem Waiting.add {count : Nat} {managers : List Manager} (waiting : Waiting count managers)
    (dep : AgentType) (config : LifecycleConfig) (observability stateStore : Bool) :
    Waiting (count + 1) (managers ++ [Manager.init dep config observability stateStore 0]) where
  length_eq := by simp [waiting.length_eq]
  created := List.forall_mem_append.mpr ⟨waiting.created, List.forall_mem_singleton.mpr rfl⟩
  unlocked := List.forall_mem_append.mpr ⟨waiting.unlocked, List.forall_mem_singleton.mpr rfl⟩

theorem addDependencies_takes {env : Env} {tolerant : Prop} {deps : List (String × AgentType)}
    {locked built : Bool} {state : AgentState} (rest : List (String × AgentType)) (count : Nat)
    (registered : (∀ dep ∈ rest, env.agentExists dep.2 = true) ∨ tolerant) :
    Takes tolerant (Shape deps (Waiting count) locked built state) (addDependencies env rest)
      (Shape deps (Waiting (count + rest.length)) locked built state) := by
  induction rest generalizing count with
  | nil => exact takes_return
  | cons dep rest ih =>
    rw [addDependencies]
    split
    · have adds : Takes tolerant (Shape deps (Waiting count) locked built state)
          (update fun m => { m with
            dependencies := m.dependencies ++
              [Manager.init dep.2 m.config m.observability m.stateStore 0] })
          (Shape deps (Waiting (count + 1)) locked built state) :=
        takes_update fun m shape => { shape with managers := shape.managers.add _ _ _ _ }
      have others := ih (count + 1) (registered.imp_left fun all d mem => all d (.tail _ mem))
      rw [List.length_cons, Nat.add_comm rest.length, ← Nat.add_assoc]
      exact takes_seq adds others
    · rename_i unregistered
      intro w _
      rcases registered with all | tolerated
      · exact absurd (all dep (.head _)) unregistered
      · exact tolerated

theorem resolveDependencies_takes {env : Env} {tolerant : Prop} {deps : List (String × AgentType)}
    {locked built : Bool} {state : AgentState}
    (registered : (∀ dep ∈ deps, env.agentExists dep.2 = true) ∨ tolerant) :
    Takes tolerant (Shape deps (Waiting 0) locked built state) (resolveDependencies env)
      (Shape deps (Waiting deps.length) locked built state) := by
  apply takes_manager
  intro m shape
  obtain ⟨module, qualname, agent⟩ := shape.agent
  rw [agent]
  have adds : Takes tolerant (Shape deps (Waiting 0) locked built state) (addDependencies env deps)
      (Shape deps (Waiting (0 + deps.length)) locked built state) :=
    addDependencies_takes deps 0 registered
  rw [Nat.zero_add] at adds
  exact adds

theorem startManager_eq (env : Env) (w : World) :
    startManager env w =
      startWith env (overDependencies
        (startEach env w.manager.config.dependencyInitMode w.manager.dependencies)) w := by
  obtain ⟨⟨node, dependencies⟩, calls⟩ := w
  rw [startManager, start]

theorem stopManager_eq (env : Env) (w : World) :
    stopManager env w = stopWith env (overDependencies (stopEach env w.manager.dependencies)) w := by
  obtain ⟨⟨node, dependencies⟩, calls⟩ := w
  rw [stopManager, stop]

theorem startWith_created (env : Env) (startDependencies : Action Unit) :
    Takes True (fun m => m.state = .created ∧ m.locked = false) (startWith env startDependencies)
      (fun _ => False) := by
  refine takes_withLock (I := fun m => m.state = .created) (.inr trivial)
    (fun m fresh => fresh.2) (fun m fresh => fresh.1) (fun _ never => never) ?_
  apply takes_manager
  intro m created w _
  rw [wp_bind, wp_raiseIf, if_pos (by simp [created])]
  trivial

theorem startEach_waiting (env : Env) (mode : InitMode) {count : Nat} {managers : List Manager}
    (waiting : Waiting (count + 1) managers) (calls : Nat) :
    ∃ i, (startEach env mode managers calls).1 = .error i := by
  cases managers with
  | nil => cases waiting.length_eq
  | cons m rest =>
    have raises : wp (startManager env) (fun _ _ => False) (fun _ _ => True) ⟨m, calls⟩ := by
      rw [wp, startManager_eq]
      exact startWith_created env _ ⟨m, calls⟩
        ⟨waiting.created m (.head _), waiting.unlocked m (.head _)⟩
    obtain ⟨i, t, started, _⟩ := exists_of_wp_error raises
    have started : start env m calls = (.error i, t) := started
    cases mode with
    | sequential => exact ⟨i, by rw [startEach, started]⟩
    | parallel => exact ⟨i, by rw [startEach, started]; rfl⟩

theorem initializeAgent_shape {env : Env} {tolerant : Prop} (calm : Quiet env ∨ tolerant)
    {deps : List (String × AgentType)}
    (registered : (∀ dep ∈ deps, env.agentExists dep.2 = true) ∨ tolerant) :
    Takes tolerant (Shape deps (Waiting 0) false false .created) (initializeAgent env)
      (Shape deps (Waiting deps.length) false true .initialized) :=
  initializeAgent_takes calm (resolveDependencies_takes registered)

theorem overDependencies_none {step : Nat → Except Interrupt Unit × List Manager × Nat}
    {tolerant : Prop} {deps : List (String × AgentType)} {locked built : Bool} {state : AgentState}
    (nothing : ∀ calls, step calls = (.ok (), [], calls)) :
    Takes tolerant (Shape deps (Waiting 0) locked built state) (overDependencies step)
      (Shape deps (Waiting 0) locked built state) := by
  intro w shape
  rw [overDependencies, wp_bind, wp_get, nothing, wp_bind, wp_set]
  have none : ([] : List Manager) = w.manager.dependencies :=
    (waiting_zero shape.managers).symm
  exact { shape with managers := none ▸ shape.managers }

theorem run_takes {env : Env} (quiet : Quiet env) (op : Operation) {state : AgentState}
    (permitted : op.permits state = true) :
    Takes False (Shape [] (Waiting 0) false true state) (op.run env)
      (Shape [] (Waiting 0) false true op.target) := by
  have calm : Quiet env ∨ False := .inl quiet
  cases op with
  | pause =>
    obtain rfl := of_decide_eq_true permitted
    exact switch_takes calm
  | resume =>
    obtain rfl := of_decide_eq_true permitted
    exact switch_takes calm
  | stop =>
    intro w shape
    rw [Operation.run, wp, stopManager_eq, waiting_zero shape.managers]
    apply stopWith_takes calm (of_decide_eq_true permitted) _ w shape
    exact overDependencies_none fun calls => by rw [stopEach]
  | start =>
    intro w shape
    rw [Operation.run, wp, startManager_eq, waiting_zero shape.managers]
    apply startWith_takes calm (of_decide_eq_true permitted) _ w shape
    exact overDependencies_none fun calls => by rw [startEach]

theorem serves {env : Env} (quiet : Quiet env) (ops : List Operation) {w : World}
    {state : AgentState} (shape : Shape [] (Waiting 0) false true state w.manager) :
    Serves env ops w := by
  induction ops generalizing w state with
  | nil => trivial
  | cons op rest ih =>
    intro permitted
    rw [shape.at_state] at permitted
    obtain ⟨_, t, ran, reached⟩ := exists_of_wp (run_takes quiet op permitted w shape)
    exact ⟨t, ran, reached.at_state, ih reached⟩

theorem fresh_shape (module qualname : String) (deps : List (String × AgentType))
    (config : LifecycleConfig) (observability stateStore : Bool) (middlewares : Nat) :
    Shape deps (Waiting 0) false false .created
      (fresh (.cls module qualname deps) config observability stateStore middlewares).manager where
  agent := ⟨module, qualname, rfl⟩
  managers := ⟨rfl, nofun, nofun⟩
  lock := rfl
  made := rfl
  at_state := rfl

/-- Where transitions can be recorded and nothing outside raises, an agent without
dependencies can be taken through every sequence of permitted calls. -/
theorem operates_of_independent {env : Env} (quiet : Quiet env) (module qualname : String)
    (config : LifecycleConfig) (observability stateStore : Bool) (middlewares : Nat) :
    Operates env
      (fresh (.cls module qualname []) config observability stateStore middlewares) := by
  have enters : Takes False (Shape [] (Waiting 0) false false .created) (enter env)
      (Shape [] (Waiting 0) false true .running) := by
    apply takes_seq (initializeAgent_shape (.inl quiet) (.inl fun _ => List.not_mem_nil.elim))
    exact run_takes quiet .start rfl
  obtain ⟨_, t, entered, reached⟩ := exists_of_wp (enters _ (fresh_shape module qualname []
    config observability stateStore middlewares))
  refine ⟨t, entered, ?_, fun ops => serves quiet ops reached⟩
  exact .intro reached.at_state (fun _ => t.manager) nofun nofun

/-- An agent with a dependency cannot be started, whatever surrounds it. -/
theorem not_operates_of_dependency (env : Env) (module qualname : String)
    {deps : List (String × AgentType)} (needed : deps ≠ []) (config : LifecycleConfig)
    (observability stateStore : Bool) (middlewares : Nat) :
    ¬ Operates env
      (fresh (.cls module qualname deps) config observability stateStore middlewares) := by
  obtain ⟨count, counted⟩ := Nat.exists_eq_succ_of_ne_zero (List.length_eq_zero_iff.not.mpr needed)
  have starts : Takes True (Shape deps (Waiting deps.length) false true .initialized)
      (startManager env) (fun _ => False) := by
    intro w shape
    rw [counted] at shape
    rw [wp, startManager_eq]
    -- the managers to start were read with the call, and the first of them raises
    have fails : Takes True (Shape deps (Waiting (count + 1)) true true .starting)
        (overDependencies
          (startEach env w.manager.config.dependencyInitMode w.manager.dependencies))
        (Shape deps (fun _ => False) true true .starting) := by
      intro v _
      obtain ⟨i, failed⟩ := startEach_waiting env w.manager.config.dependencyInitMode
        shape.managers v.calls
      rw [overDependencies, wp_bind, wp_get, wp_bind, wp_set, failed]
      trivial
    apply wp_mono (startWith_takes (.inr trivial) (.inl rfl) fails w shape)
    · exact fun _ _ reached => reached.managers
    · exact fun _ _ _ => trivial
  have enters : Takes True (Shape deps (Waiting 0) false false .created) (enter env)
      (fun _ => False) := by
    apply takes_seq (initializeAgent_shape (.inr trivial) (.inr trivial))
    exact starts
  rintro ⟨t, entered, _⟩
  exact wp_of_eq_ok (enters _ (fresh_shape module qualname deps config observability stateStore
    middlewares)) entered

theorem operates_iff_independent {env : Env} (quiet : Quiet env) (module qualname : String)
    (deps : List (String × AgentType)) (config : LifecycleConfig) (observability stateStore : Bool)
    (middlewares : Nat) :
    Operates env (fresh (.cls module qualname deps) config observability stateStore middlewares) ↔
      deps = [] := by
  constructor
  · intro operates
    by_contra needed
    exact not_operates_of_dependency env module qualname needed config observability stateStore
      middlewares operates
  · rintro rfl
    exact operates_of_independent quiet module qualname config observability stateStore middlewares

end KuvaAI.Lifecycle
