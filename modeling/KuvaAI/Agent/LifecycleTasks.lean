import KuvaAI.Agent.Lifecycle
import KuvaAI.Lib.Coroutine

/-! The operations of lifecycle.py as tasks that share one manager. Between two of
its awaits a task runs alone; at an await it may be cancelled. The managers of the
dependencies are outside here: their operations never reach the manager itself. -/
namespace KuvaAI.LifecycleTasks
open Coroutine
open Python (Exn)
open Lifecycle (LifecyclePhase AgentState LifecycleConfig AgentType LifecycleEvent HealthStatus
  InitMode Raised Interrupt)

/-- `holder` is the task that holds `_state_lock`, and `task` says whether a health
monitor has been created. -/
structure Manager where
  agentType : AgentType
  config : LifecycleConfig
  observability : Bool
  stateStore : Bool
  middlewares : Nat
  dependencies : List AgentType
  agentInstance : Bool
  state : AgentState
  healthStatus : HealthStatus
  lifecycleEvents : List LifecycleEvent
  task : Bool
  restartCount : Nat
  holder : Option Nat

/-- The manager and the history of its calls, which no code reads: the task of each
operation and of each restart in progress, and, for each restart that passed its
check, the count and the number of restarts in progress it met there. -/
structure Shared where
  manager : Manager
  operating : List Nat
  restarting : List Nat
  checks : List (Nat × Nat)

def Shared.edit (s : Shared) (f : Manager → Manager) : Shared := { s with manager := f s.manager }

def fresh (agentType : AgentType) (config : LifecycleConfig) (observability stateStore : Bool)
    (middlewares : Nat) : Shared where
  manager :=
    { agentType, config, observability, stateStore, middlewares, dependencies := []
      agentInstance := false, state := .created, healthStatus := .unknown, lifecycleEvents := []
      task := false, restartCount := 0, holder := none }
  operating := []
  restarting := []
  checks := []

inductive Await where
  | acquire | load | save | captureException | awaitTask | checkHealth | sleep
  | emit (event : LifecycleEvent)
  | onPhase (phase : LifecyclePhase)
  | hook (method : String)
  | startDependency (dep : AgentType)
  | startDependencies (deps : List AgentType)
  | stopDependencies (deps : List AgentType)

def Reply : Await → Type
  | .checkHealth => HealthStatus
  | _ => Unit

inductive Query where
  | awaits (point : Await)
  | callHook (method : String)
  | callCheckHealth
  | construct
  | agentExists (dep : AgentType)

def Answer : Query → Type
  | .awaits point => Except Interrupt (Reply point)
  | .callHook _ => Except Raised Unit
  | .callCheckHealth => Except Raised HealthStatus
  | .construct => Except Raised Unit
  | .agentExists _ => Bool

structure Env where
  transition : AgentType → AgentState → Except Exn LifecycleEvent
  isCoroutine : String → Bool

abbrev Task := Coroutine Shared Answer Interrupt

def manager : Task Manager := return (← get).manager

def edit (f : Manager → Manager) : Task Unit := modify fun s => s.edit f

def raise {α : Type} (e : Raised) : Task α := throw (.raised e)

def raiseIf (c : Prop) [Decidable c] (e : Raised) : Task Unit :=
  if c then raise e else return ()

def reraise {α : Type} : Except Raised α → Task α
  | .ok a => pure a
  | .error e => raise e

def lift {α : Type} : Except Exn α → Task α
  | .ok a => pure a
  | .error e => raise (.builtin e)

def awaiting (point : Await) : Task (Reply point) := do
  MonadExcept.ofExcept (← wait (Query.awaits point))

section Operations

variable (env : Env) (i : Nat)

/-- `async with self._state_lock` in task `i`; its holder cannot acquire it again. -/
def withLock (body : Task Unit) : Task Unit := do
  let m ← manager
  raiseIf (m.holder = some i)
    (.builtin ⟨.runtimeError, "Attempted to acquire an already held Lock"⟩)
  awaiting .acquire
  edit fun m => { m with holder := some i }
  finallyDo body (edit fun m => { m with holder := none })

def operating (call : Task Unit) : Task Unit := do
  modify fun s => { s with operating := i :: s.operating }
  finallyDo call (modify fun s => { s with operating := s.operating.erase i })

def setState (newState : AgentState) : Task Unit := do
  let m ← manager
  let event ← lift (env.transition m.agentType newState)
  edit fun m => { m with
    state := newState, lifecycleEvents := Lifecycle.appendEvent m.lifecycleEvents event }
  if m.observability then
    awaiting (.emit event)
  else
    return ()

def runMiddleware (phase : LifecyclePhase) : Task Unit :=
  tryCatch (awaiting (.onPhase phase)) fun
    | .raised _ => return ()
    | .cancelled => throw .cancelled

def runMiddlewaresTimes (phase : LifecyclePhase) : Nat → Task Unit
  | 0 => return ()
  | n + 1 => do
    runMiddleware phase
    runMiddlewaresTimes phase n

def runMiddlewares (phase : LifecyclePhase) : Task Unit := do
  let m ← manager
  runMiddlewaresTimes phase m.middlewares

def missing (method : String) : Raised :=
  .builtin ⟨.attributeError, "'NoneType' object has no attribute '" ++ method ++ "'"⟩

def instanceHook (method : String) : Task Unit := do
  let m ← manager
  raiseIf (m.agentInstance = false) (missing method)
  if env.isCoroutine method then
    awaiting (.hook method)
  else do
    reraise (← call (Query.callHook method))

def loadState : Task Unit := do
  let m ← manager
  if m.config.statePersistence && m.stateStore then do
    let _ ← lift m.agentType.agentId
    awaiting .load
  else
    return ()

def saveState : Task Unit := do
  let m ← manager
  if m.config.statePersistence && m.stateStore then do
    let _ ← lift m.agentType.agentId
    raiseIf (m.agentInstance = false) (missing "state_dict")
    reraise (← call (Query.callHook "state_dict"))
    awaiting .save
  else
    return ()

def addDependencies : List (String × AgentType) → Task Unit
  | [] => return ()
  | (_, dep) :: rest => do
    let registered : Bool ← call (Query.agentExists dep)
    raiseIf (registered = false) (.dependencyError ("Dependency " ++ dep.text ++ " not registered"))
    edit fun m => { m with dependencies := m.dependencies ++ [dep] }
    addDependencies rest

def resolveDependencies : Task Unit := do
  let m ← manager
  let dependencies ← lift m.agentType.dependencies
  addDependencies dependencies

def uncallable : Raised := .builtin ⟨.typeError, "'str' object is not callable"⟩

def construct : Task Unit := do
  let m ← manager
  match m.agentType with
  | .name _ => raise uncallable
  | .cls _ _ _ => do
    reraise (← call Query.construct)
    edit fun m => { m with agentInstance := true }

def restartWith (stop init start : Task Unit) : Task Unit := do
  let m ← manager
  raiseIf (m.config.maxRestartAttempts ≤ m.restartCount)
    (.lifecycleError "Max restart attempts reached")
  modify fun s => { s with
    restarting := i :: s.restarting
    checks := (s.manager.restartCount, s.restarting.length) :: s.checks }
  finallyDo
    (tryCatch
      (do
        stop
        init
        start
        edit fun m => { m with restartCount := 0 })
      (fun
        | .raised e => do
          edit fun m => { m with restartCount := m.restartCount + 1 }
          let m ← manager
          raise (.lifecycleError
            ("Restart failed (attempt " ++ toString m.restartCount ++ "): " ++ e.text))
        | .cancelled => throw .cancelled))
    (modify fun s => { s with restarting := s.restarting.erase i })

def handleErrorWith (restart : Task Unit) : Task Unit := do
  edit fun m => { m with healthStatus := .down }
  setState env .error
  let m ← manager
  if m.observability then
    awaiting .captureException
  let m ← manager
  if 0 < m.config.maxRestartAttempts then
    restart
  else
    return ()

/-- The restart as the error handler of an operation calls it. The task holds the lock
by then, so the first operation cannot acquire it. -/
def restartWithin : Task Unit :=
  let relock := operating i (withLock i (return ()))
  restartWith i relock relock relock

def guarded (failure : String) (body : Task Unit) : Task Unit :=
  tryCatch body fun
    | .raised _ => do
      handleErrorWith env (restartWithin i)
      raise (.lifecycleError failure)
    | .cancelled => throw .cancelled

def rejectIf : Option Raised → Task Unit
  | some e => raise e
  | none => return ()

/-- What the five operations have in common: the states each refuses, the one it
passes through, and what it does there. -/
def operation (refused : AgentState → Option Raised) (transit : AgentState) (failure : String)
    (body : Task Unit) : Task Unit :=
  operating i (withLock i do
    let m ← manager
    rejectIf (refused m.state)
    setState env transit
    guarded env i failure body)

def cannot (verb : String) (permitted : List AgentState) (state : AgentState) : Option Raised :=
  if state ∈ permitted then none
  else some (.lifecycleError ("Cannot " ++ verb ++ " from state " ++ state.text))

def initializeAgent : Task Unit :=
  operation env i
    (fun state => if state = .created then none
      else some (.lifecycleError "Agent already initialized"))
    .initializing "Initialization failed" do
    loadState
    resolveDependencies
    runMiddlewares .preInit
    construct
    instanceHook env "post_init"
    saveState
    runMiddlewares .postInit
    setState env .initialized

def startEach : List AgentType → Task Unit
  | [] => return ()
  | dep :: rest => do
    awaiting (.startDependency dep)
    startEach rest

def startDependencies : Task Unit := do
  let m ← manager
  match m.config.dependencyInitMode with
  | .sequential => startEach m.dependencies
  | .parallel => awaiting (.startDependencies m.dependencies)

def start : Task Unit :=
  operation env i (cannot "start" [.initialized, .stopped]) .starting "Start failed" do
    startDependencies
    runMiddlewares .preStart
    let m ← manager
    raiseIf (m.agentInstance = false) (.lifecycleError "Agent not initialized")
    instanceHook env "start"
    edit fun m => { m with task := true }
    runMiddlewares .postStart
    setState env .running

/-- The health monitor is cancelled and awaited; its cancellation is swallowed. -/
def cancelTask : Task Unit := do
  let m ← manager
  if m.task then
    tryCatch (awaiting .awaitTask) fun
      | .raised e => raise e
      | .cancelled => return ()
  else
    return ()

def stopDependencies : Task Unit := do
  let m ← manager
  awaiting (.stopDependencies m.dependencies)

def stop : Task Unit :=
  operation env i (cannot "stop" [.running, .paused, .error]) .stopping "Stop failed" do
    runMiddlewares .preStop
    let m ← manager
    instanceHook env (if m.config.enableGracefulShutdown then "graceful_stop" else "stop")
    cancelTask
    stopDependencies
    saveState
    runMiddlewares .postStop
    setState env .stopped

def pause : Task Unit :=
  operation env i (cannot "pause" [.running]) .pausing "Pause failed" do
    runMiddlewares .prePause
    instanceHook env "pause"
    runMiddlewares .postPause
    setState env .paused

def resume : Task Unit :=
  operation env i (cannot "resume" [.paused]) .resuming "Resume failed" do
    runMiddlewares .preResume
    instanceHook env "resume"
    runMiddlewares .postResume
    setState env .running

def restart : Task Unit := restartWith i (stop env i) (initializeAgent env i) (start env i)

def handleUnhealthy : Task Unit := do
  let m ← manager
  if 0 < m.config.maxRestartAttempts then
    tryCatch (restart env i) fun
      | .raised (.lifecycleError _) => setState env .error
      | e => throw e
  else
    return ()

def healthCheck : Task HealthStatus :=
  if env.isCoroutine "health_check" then
    awaiting .checkHealth
  else do
    reraise (← call Query.callCheckHealth)

def monitorRound : Task Bool :=
  tryCatch
    (do
      let m ← manager
      if m.agentInstance then do
        let status ← healthCheck env
        edit fun m => { m with healthStatus := status }
        if status = .unhealthy then
          handleUnhealthy env i
        awaiting .sleep
        return true
      else do
        edit fun m => { m with healthStatus := .down }
        return true)
    fun
    | .cancelled => return false
    | .raised _ => do
      handleErrorWith env (restart env i)
      return true

def monitorHealth : Nat → Task Unit
  | 0 => return ()
  | rounds + 1 => do
    let again ← monitorRound env i
    if again then
      monitorHealth rounds
    else
      return ()

end Operations

/-- What a task does with the manager. The director's deployment, its teardown and its
restart of failed agents start tasks of the first, third and sixth kind. -/
inductive Job where
  | init | start | stop | pause | resume | restart | enter
  | monitorHealth (rounds : Nat)

def Job.run (env : Env) (i : Nat) : Job → Task Unit
  | .init => initializeAgent env i
  | .start => LifecycleTasks.start env i
  | .stop => LifecycleTasks.stop env i
  | .pause => LifecycleTasks.pause env i
  | .resume => LifecycleTasks.resume env i
  | .restart => LifecycleTasks.restart env i
  | .enter => do
    initializeAgent env i
    LifecycleTasks.start env i
  | .monitorHealth rounds => LifecycleTasks.monitorHealth env i rounds

/-- The lock is handed to a task only when no other holds it. -/
def served (_ : Nat) : (query : Query) → Answer query → Shared → Prop
  | .awaits .acquire, .ok _, s => s.manager.holder = none
  | _, _, _ => True

def Started (env : Env) (i : Nat) (x : Task Unit) : Prop := ∃ job : Job, x = job.run env i

def ledgerAgent : AgentType := .cls "agents.ledger" "LedgerAgent" []

def syncAnswer (_ : Nat) : (query : Query) → Answer query
  | .awaits _ => .error .cancelled
  | .callHook _ => .ok ()
  | .callCheckHealth => .ok .unknown
  | .construct => .ok ()
  | .agentExists _ => true

end KuvaAI.LifecycleTasks
