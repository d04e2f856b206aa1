import KuvaAI.Lib.Effect
import KuvaAI.Python.Value

/-! The agent lifecycle manager of lifecycle.py: its five operations, the error
handler and the restart they share, and the managers of an agent's dependencies.
Agents, middlewares, the state store and the observability client are outside:
an environment answers each call of them. -/
namespace KuvaAI.Lifecycle
open Python

inductive LifecyclePhase where
  | preInit | postInit | preStart | postStart | preStop | postStop
  | prePause | postPause | preResume | postResume
  deriving DecidableEq, Repr

namespace LifecyclePhase

def value : LifecyclePhase → String
  | preInit => "pre_initialization"
  | postInit => "post_initialization"
  | preStart => "pre_start"
  | postStart => "post_start"
  | preStop => "pre_stop"
  | postStop => "post_stop"
  | prePause => "pre_pause"
  | postPause => "post_pause"
  | preResume => "pre_resume"
  | postResume => "post_resume"

def all : List LifecyclePhase :=
  [preInit, postInit, preStart, postStart, preStop, postStop, prePause, postPause, preResume,
    postResume]

def ofValue (text : String) : Except Exn LifecyclePhase :=
  match all.find? (fun phase => phase.value = text) with
  | some phase => .ok phase
  | none => .error ⟨.valueError, "'" ++ text ++ "' is not a valid LifecyclePhase"⟩

end LifecyclePhase

inductive AgentState where
  | created | initializing | initialized | starting | running | pausing | paused | resuming
  | stopping | stopped | error
  deriving DecidableEq, Repr

def AgentState.value : AgentState → String
  | created => "created"
  | initializing => "initializing"
  | initialized => "initialized"
  | starting => "starting"
  | running => "running"
  | pausing => "pausing"
  | paused => "paused"
  | resuming => "resuming"
  | stopping => "stopping"
  | stopped => "stopped"
  | error => "error"

def AgentState.text (state : AgentState) : String := "AgentState." ++ state.value.toUpper

inductive InitMode where
  | parallel | sequential
  deriving DecidableEq, Repr

structure LifecycleConfig where
  maxRestartAttempts : Nat
  dependencyInitMode : InitMode
  statePersistence : Bool
  enableGracefulShutdown : Bool

/-- What stands for an agent's type: a class with its declared dependencies, or,
as the registry and the factory have it, the name of one. -/
inductive AgentType where
  | name (text : String)
  | cls (module qualname : String) (dependencies : List (String × AgentType))

namespace AgentType

def text : AgentType → String
  | name text => text
  | cls module qualname _ => "<class '" ++ module ++ "." ++ qualname ++ "'>"

def missing (member : String) : Exn :=
  ⟨.attributeError, "'str' object has no attribute '" ++ member ++ "'"⟩

def dependencies : AgentType → Except Exn (List (String × AgentType))
  | name _ => .error (missing "dependencies")
  | cls _ _ deps => .ok deps

def agentId : AgentType → Except Exn String
  | name _ => .error (missing "__module__")
  | cls module qualname _ => .ok (module ++ "." ++ qualname)

end AgentType

structure LifecycleEvent where
  phase : LifecyclePhase
  agentId : String
  state : AgentState
  deriving DecidableEq, Repr

def transitionEvent (agentType : AgentType) (newState : AgentState) : Except Exn LifecycleEvent := do
  let phase ← LifecyclePhase.ofValue ("transition_to_" ++ newState.value)
  let agentId ← agentType.agentId
  return { phase, agentId, state := newState }

inductive HealthStatus where
  | unknown | down | unhealthy
  | other (name : String)
  deriving DecidableEq, Repr

/-- A manager, less the managers of its dependencies. `locked` says that the
current task holds `_state_lock`. -/
structure Node where
  agentType : AgentType
  config : LifecycleConfig
  observability : Bool
  stateStore : Bool
  middlewares : Nat
  agentInstance : Bool
  state : AgentState
  healthStatus : HealthStatus
  lifecycleEvents : List LifecycleEvent
  task : Bool
  restartCount : Nat
  locked : Bool

structure Manager extends Node where
  dependencies : List Manager

def Manager.init (agentType : AgentType) (config : LifecycleConfig)
    (observability stateStore : Bool) (middlewares : Nat) : Manager :=
  { agentType, config, observability, stateStore, middlewares, agentInstance := false
    state := .created, healthStatus := .unknown, lifecycleEvents := [], task := false
    restartCount := 0, locked := false, dependencies := [] }

inductive Raised where
  | lifecycleError (text : String)
  | dependencyError (text : String)
  | builtin (e : Exn)
  deriving DecidableEq, Repr

def Raised.text : Raised → String
  | lifecycleError text => text
  | dependencyError text => text
  | builtin e => e.text

/-- What ends an operation early. `except Exception` catches only the first. -/
inductive Interrupt where
  | raised (e : Raised)
  | cancelled
  deriving DecidableEq, Repr

inductive Call where
  | acquire | load | save | construct | awaitTask
  | onPhase (phase : LifecyclePhase)
  | hook (method : String)
  | emit (event : LifecycleEvent)
  | captureException
  deriving DecidableEq, Repr

/-- The registered type names, how `_set_state` builds its event, and how each
outside call ends, by its number in the run. -/
structure Env where
  registry : List String
  transition : AgentType → AgentState → Except Exn LifecycleEvent
  outcome : Nat → Call → Except Interrupt Unit

/-- `agent_type in self._registry`; a class is no key of it, its name is. -/
def Env.agentExists (env : Env) : AgentType → Bool
  | .name text => text ∈ env.registry
  | .cls _ _ _ => false

structure World where
  manager : Manager
  calls : Nat

abbrev Action := Effect World Interrupt

def manager : Action Manager := return (← get).manager

def update (f : Manager → Manager) : Action Unit :=
  modify (fun w => { w with manager := f w.manager })

def raise {α : Type} (e : Raised) : Action α := throw (.raised e)

def raiseIf (c : Prop) [Decidable c] (e : Raised) : Action Unit :=
  if c then raise e else return ()

def lift {α : Type} : Except Exn α → Action α
  | .ok a => pure a
  | .error e => raise (.builtin e)

section Operations

variable (env : Env)

def outside (call : Call) : Action Unit := do
  let w ← get
  set { w with calls := w.calls + 1 }
  match env.outcome w.calls call with
  | .ok () => return ()
  | .error i => throw i

/-- `async with self._state_lock`; its holder cannot acquire it again. -/
def withLock (body : Action Unit) : Action Unit := do
  let m ← manager
  raiseIf m.locked
    (.builtin ⟨.runtimeError, "Attempted to acquire an already held Lock"⟩)
  outside env .acquire
  update (fun m => { m with locked := true })
  body.finallyDo (fun w => { w with manager := { w.manager with locked := false } })

def appendEvent (events : List LifecycleEvent) (event : LifecycleEvent) : List LifecycleEvent :=
  (events ++ [event]).drop (events.length + 1 - 1000)

def setState (newState : AgentState) : Action Unit := do
  let m ← manager
  let event ← lift (env.transition m.agentType newState)
  update (fun m => { m with
    state := newState, lifecycleEvents := appendEvent m.lifecycleEvents event })
  if m.observability then
    outside env (.emit event)

def runMiddleware (phase : LifecyclePhase) : Action Unit :=
  tryCatch (outside env (.onPhase phase)) (fun
    | .raised _ => return ()
    | .cancelled => throw .cancelled)

def runMiddlewaresTimes (phase : LifecyclePhase) : Nat → Action Unit
  | 0 => return ()
  | n + 1 => do
    runMiddleware env phase
    runMiddlewaresTimes phase n

def runMiddlewares (phase : LifecyclePhase) : Action Unit := do
  let m ← manager
  runMiddlewaresTimes env phase m.middlewares

def instanceHook (method : String) : Action Unit := do
  let m ← manager
  if m.agentInstance then
    outside env (.hook method)
  else
    raise (.builtin ⟨.attributeError, "'NoneType' object has no attribute '" ++ method ++ "'"⟩)

def loadState : Action Unit := do
  let m ← manager
  if m.config.statePersistence && m.stateStore then
    let _ ← lift m.agentType.agentId
    outside env .load

def saveState : Action Unit := do
  let m ← manager
  if m.config.statePersistence && m.stateStore then
    let _ ← lift m.agentType.agentId
    instanceHook env "state_dict"
    outside env .save

def addDependencies : List (String × AgentType) → Action Unit
  | [] => return ()
  | (_, dep) :: rest => do
    if env.agentExists dep then
      update (fun m => { m with
        dependencies := m.dependencies ++ [Manager.init dep m.config m.observability m.stateStore 0] })
      addDependencies rest
    else
      raise (.dependencyError ("Dependency " ++ dep.text ++ " not registered"))

def resolveDependencies : Action Unit := do
  let m ← manager
  let dependencies ← lift m.agentType.dependencies
  addDependencies env dependencies

def construct : Action Unit := do
  let m ← manager
  match m.agentType with
  | .name _ => raise (.builtin ⟨.typeError, "'str' object is not callable"⟩)
  | .cls _ _ _ => do
    outside env .construct
    update (fun m => { m with agentInstance := true })

def restartWith (stop init start : Action Unit) : Action Unit := do
  let m ← manager
  raiseIf (m.config.maxRestartAttempts ≤ m.restartCount)
    (.lifecycleError "Max restart attempts reached")
  tryCatch
    (do
      stop
      init
      start
      update (fun m => { m with restartCount := 0 }))
    (fun
      | .raised e => do
        update (fun m => { m with restartCount := m.restartCount + 1 })
        let m ← manager
        raise (.lifecycleError
          ("Restart failed (attempt " ++ toString m.restartCount ++ "): " ++ e.text))
      | .cancelled => throw .cancelled)

/-- The error handler as an operation calls it. It holds the lock by then, so the
first operation of the restart cannot acquire it. -/
def handleError : Action Unit := do
  update (fun m => { m with healthStatus := .down })
  setState env .error
  let m ← manager
  if m.observability then
    outside env .captureException
  if 0 < m.config.maxRestartAttempts then
    let relock := withLock env (return ())
    restartWith relock relock relock

def attempt (failure : String) (body : Action Unit) : Action Unit :=
  tryCatch body (fun
    | .raised _ => do
      handleError env
      raise (.lifecycleError failure)
    | .cancelled => throw .cancelled)

def initializeAgent : Action Unit := withLock env do
  let m ← manager
  raiseIf (m.state ≠ .created) (.lifecycleError "Agent already initialized")
  setState env .initializing
  attempt env "Initialization failed" do
    loadState env
    resolveDependencies env
    runMiddlewares env .preInit
    construct env
    instanceHook env "post_init"
    saveState env
    runMiddlewares env .postInit
    setState env .initialized

def startWith (startDependencies : Action Unit) : Action Unit := withLock env do
  let m ← manager
  raiseIf (m.state ≠ .initialized ∧ m.state ≠ .stopped)
    (.lifecycleError ("Cannot start from state " ++ m.state.text))
  setState env .starting
  attempt env "Start failed" do
    startDependencies
    runMiddlewares env .preStart
    let m ← manager
    raiseIf (m.agentInstance = false) (.lifecycleError "Agent not initialized")
    instanceHook env "start"
    update (fun m => { m with task := true })
    runMiddlewares env .postStart
    setState env .running

/-- The health monitor is cancelled and awaited; its cancellation is swallowed. -/
def cancelTask : Action Unit := do
  let m ← manager
  if m.task then
    tryCatch (outside env .awaitTask) (fun
      | .raised e => raise e
      | .cancelled => return ())

def stopWith (stopDependencies : Action Unit) : Action Unit := withLock env do
  let m ← manager
  raiseIf (m.state ≠ .running ∧ m.state ≠ .paused ∧ m.state ≠ .error)
    (.lifecycleError ("Cannot stop from state " ++ m.state.text))
  setState env .stopping
  attempt env "Stop failed" do
    runMiddlewares env .preStop
    instanceHook env (if m.config.enableGracefulShutdown then "graceful_stop" else "stop")
    cancelTask env
    stopDependencies
    saveState env
    runMiddlewares env .postStop
    setState env .stopped

def switch (verb hook : String) (source transit target : AgentState) (pre post : LifecyclePhase)
    (failure : String) : Action Unit := withLock env do
  let m ← manager
  raiseIf (m.state ≠ source)
    (.lifecycleError ("Cannot " ++ verb ++ " from state " ++ m.state.text))
  setState env transit
  attempt env failure do
    runMiddlewares env pre
    instanceHook env hook
    runMiddlewares env post
    setState env target

def pause : Action Unit :=
  switch env "pause" "pause" .running .pausing .paused .prePause .postPause "Pause failed"

def resume : Action Unit :=
  switch env "resume" "resume" .paused .resuming .running .preResume .postResume "Resume failed"

def overDependencies (step : Nat → Except Interrupt Unit × List Manager × Nat) : Action Unit := do
  let w ← get
  let (result, dependencies, calls) := step w.calls
  set (World.mk { w.manager with dependencies } calls)
  match result with
  | .ok () => return ()
  | .error i => throw i

def firstError : Except Interrupt Unit → Except Interrupt Unit → Except Interrupt Unit
  | .error i, _ => .error i
  | .ok (), rest => rest

mutual
def start : Manager → Nat → Except Interrupt Unit × World
  | ⟨node, dependencies⟩, calls =>
    startWith env (overDependencies (startEach node.config.dependencyInitMode dependencies))
      ⟨⟨node, dependencies⟩, calls⟩

/-- One after the other up to the first failure, or all of them with the first
failure raised at the end. -/
def startEach (mode : InitMode) :
    List Manager → Nat → Except Interrupt Unit × List Manager × Nat
  | [], calls => (.ok (), [], calls)
  | dep :: rest, calls =>
    let (result, w) := start dep calls
    match mode, result with
    | .sequential, .error i => (.error i, w.manager :: rest, w.calls)
    | _, result =>
      let (others, rest, calls) := startEach mode rest w.calls
      (firstError result others, w.manager :: rest, calls)
end

mutual
def stop : Manager → Nat → Except Interrupt Unit × World
  | ⟨node, dependencies⟩, calls =>
    stopWith env (overDependencies (stopEach dependencies)) ⟨⟨node, dependencies⟩, calls⟩

def stopEach : List Manager → Nat → Except Interrupt Unit × List Manager × Nat
  | [], calls => (.ok (), [], calls)
  | dep :: rest, calls =>
    let (result, w) := stop dep calls
    let (others, rest, calls) := stopEach rest w.calls
    (firstError result others, w.manager :: rest, calls)
end

def startManager : Action Unit := fun w => start env w.manager w.calls

def stopManager : Action Unit := fun w => stop env w.manager w.calls

def restart : Action Unit :=
  restartWith (stopManager env) (initializeAgent env) (startManager env)

def enter : Action Unit := do
  initializeAgent env
  startManager env

end Operations

end KuvaAI.Lifecycle
