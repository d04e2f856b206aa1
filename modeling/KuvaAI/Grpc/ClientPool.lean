import KuvaAI.Lib.BoundedDeque
import KuvaAI.Lib.Dict
import KuvaAI.Python.Async
import Mathlib.Logic.Function.Basic

/-! The pool of gRPC channels of client_pool.py. The channels, their health service and
the service stubs are outside. -/
namespace KuvaAI.GrpcClient
open Python Coroutine

inductive HealthStatus where
  | servingStatusUnknown
  | serving
  | notServing
  | other (code : Int)
  deriving DecidableEq, Repr

/-- An endpoint, or the `None` that two of the strategies select. -/
abbrev Endpoint := Option String

/-- The channels are numbered as they were created. -/
structure ChannelWrapper where
  endpoint : Endpoint
  healthStatus : HealthStatus

inductive LoadBalancer where
  | roundRobin
  | random
  | leastConnections
  | latencyAware

structure ClientConfig where
  endpoints : List String
  maxConnPerEndpoint : Nat
  maxIdleConn : Nat
  retryCount : Nat
  loadBalancingStrategy : String

def createLoadBalancer (strategy : String) : LoadBalancer :=
  if strategy = "random" then .random
  else if strategy = "least_connections" then .leastConnections
  else if strategy = "latency_aware" then .latencyAware
  else .roundRobin

/-- What a task does with the channel it has at hand. One that it opens is being probed
whenever the task waits. -/
inductive Purpose where
  | opening
  | returning

/-- What has happened, for the record: no code reads it. -/
inductive Event where
  /-- A caller was given a channel of this health. -/
  | handedOut (channel : Nat) (status : HealthStatus)
  /-- A channel that `acquire` created was probed and not found healthy. -/
  | probedUnhealthy (channel : Nat)
  | probeCancelled (channel : Nat)
  | serviceRaised (channel : Nat)
  /-- A channel was added to a deque that was full. -/
  | overflowed (endpoint : Endpoint)

structure ClientPool where
  roundRobinIndex : Nat
  permits : Nat
  pools : Dict Endpoint (BoundedDeque Nat)
  channels : Nat → ChannelWrapper
  created : Nat
  closed : List Nat
  /-- The channels that callers have and are not giving back. -/
  held : List Nat
  /-- The channel that each task has at hand. -/
  hands : Nat → Option (Purpose × Nat)
  /-- Checks of endpoints that the loop has created tasks for and that have not begun. -/
  scheduled : List Endpoint
  history : List Event

inductive Call where
  | choice
  | acquirePermit
  | createChannel (endpoint : Endpoint)
  | check (channel : Nat)
  | service (channel : Nat)
  | sleep
  | gather
  | joinHealthTask

def Answer : Call → Type
  | .choice => Nat
  | .check _ => Except Interrupt HealthStatus
  | .createChannel _ => Except Exn Unit
  | .service _ => Except Exn Unit
  | _ => Except Interrupt Unit

abbrev Task := Coroutine ClientPool Answer Interrupt

def ClientConfig.keys (config : ClientConfig) : List Endpoint := config.endpoints.map some

def ClientPool.init (config : ClientConfig) : ClientPool where
  roundRobinIndex := 0
  permits := config.maxConnPerEndpoint * config.endpoints.length
  pools := Dict.empty.fill config.keys (.empty config.maxConnPerEndpoint)
  channels := fun _ => ⟨none, .servingStatusUnknown⟩
  created := 0
  closed := []
  held := []
  hands := fun _ => none
  scheduled := []
  history := []

namespace ClientPool

variable (g : ClientPool)

def isHealthy (channel : Nat) : Bool := (g.channels channel).healthStatus = .serving

def setHealth (channel : Nat) (status : HealthStatus) : ClientPool :=
  { g with channels := Function.update g.channels channel ⟨(g.channels channel).endpoint, status⟩ }

def setPool (endpoint : Endpoint) (pool : BoundedDeque Nat) : ClientPool :=
  { g with pools := g.pools.set endpoint pool }

def takes (task : Nat) (purpose : Purpose) (channel : Nat) : ClientPool :=
  { g with hands := Function.update g.hands task (some (purpose, channel)) }

def empties (task : Nat) : ClientPool := { g with hands := Function.update g.hands task none }

def create (task : Nat) (endpoint : Endpoint) : ClientPool :=
  { g with
    created := g.created + 1
    channels := Function.update g.channels g.created ⟨endpoint, .servingStatusUnknown⟩ }.takes
      task .opening g.created

def popleft (task : Nat) (endpoint : Endpoint) (pool : BoundedDeque Nat) (channel : Nat) : ClientPool :=
  (g.setPool endpoint pool.popleft).takes task .opening channel

def append (task : Nat) (endpoint : Endpoint) (pool : BoundedDeque Nat) (channel : Nat) : ClientPool :=
  ({ g with
    history := if pool.Full then g.history ++ [Event.overflowed endpoint] else g.history }.setPool
      endpoint (pool.push channel)).empties task

def close (task channel : Nat) : ClientPool :=
  { g with closed := g.closed ++ [channel] }.empties task

def forget (task : Nat) (event : Event) : ClientPool :=
  { g with history := g.history ++ [event] }.empties task

def handOut (task channel : Nat) : ClientPool :=
  { g with
    held := g.held ++ [channel]
    history := g.history ++ [Event.handedOut channel (g.channels channel).healthStatus] }.empties task

def giveBack (task channel : Nat) : ClientPool :=
  { g with held := g.held.erase channel }.takes task .returning channel

def keep (task channel : Nat) : ClientPool := { g with held := g.held ++ [channel] }.empties task

/-- The loops of `_evict_unhealthy_connections`. -/
def evict (endpoint : Endpoint) (pool : BoundedDeque Nat) : ClientPool :=
  { g with closed := g.closed ++ pool.items.filter fun channel => !g.isHealthy channel }.setPool
    endpoint ((BoundedDeque.empty pool.limit).extend (pool.items.filter g.isHealthy))

def drain (endpoint : Endpoint) (pool : BoundedDeque Nat) : ClientPool :=
  { g with closed := g.closed ++ pool.items }.setPool endpoint (.empty pool.limit)

end ClientPool

def selectEndpoint (config : ClientConfig) : Task Endpoint :=
  match createLoadBalancer config.loadBalancingStrategy with
  | .roundRobin => do
    raiseIf (config.endpoints = []) ⟨.zeroDivisionError, "integer modulo by zero"⟩
    let g ← get
    modify fun g => { g with roundRobinIndex := (g.roundRobinIndex + 1) % config.endpoints.length }
    return config.endpoints[(g.roundRobinIndex + 1) % config.endpoints.length]?
  | .random => do
    raiseIf (config.endpoints = []) ⟨.indexError, "Cannot choose from an empty sequence"⟩
    let index : Nat ← call Call.choice
    return config.endpoints[index % config.endpoints.length]?
  | .leastConnections | .latencyAware => return none

/-- `self._pools[endpoint]`. -/
def poolOf (endpoint : Endpoint) : Task (BoundedDeque Nat) := do
  let g ← get
  match g.pools.get? endpoint with
  | some pool => return pool
  | none => raise ⟨.keyError, (endpoint.map fun name => s!"'{name}'").getD "None"⟩

/-- `async with self._semaphore`. A task may wait although there is a permit: others came
first. -/
def withPermit {α : Type} (body : Task α) : Task α := do
  outcome (← wait Call.acquirePermit)
  modify fun g => { g with permits := g.permits - 1 }
  finallyDo body (modify fun g => { g with permits := g.permits + 1 })

/-- `check_health`; only a cancellation gets out of it. -/
def checkHealth (channel : Nat) : Task Unit := do
  let response : Except Interrupt HealthStatus ← wait (Call.check channel)
  match response with
  | .ok status => modify fun g => g.setHealth channel status
  | .error (.raised _) => modify fun g => g.setHealth channel .notServing
  | .error .cancelled => throw .cancelled

def openChannel (task : Nat) (endpoint : Endpoint) : Task Nat := do
  orRaise (← call (Call.createChannel endpoint))
  let g ← get
  modify fun g => g.create task endpoint
  tryCatch (checkHealth g.created) fun e => do
    modify fun h => h.forget task (.probeCancelled g.created)
    throw e
  return g.created

def handOut (task channel : Nat) : Task Unit := do
  let made : Except Exn Unit ← call (Call.service channel)
  match made with
  | .ok () => modify fun g => g.handOut task channel
  | .error e => do
    modify fun g => g.forget task (.serviceRaised channel)
    raise e

def acquirePooled (task : Nat) (endpoint : Endpoint) : Task (Option Nat) :=
  withPermit (do
    let pool ← poolOf endpoint
    match pool.items with
    | [] => return none
    | channel :: _ => do
      modify fun g => g.popleft task endpoint pool channel
      let g ← get
      if g.isHealthy channel then do
        handOut task channel
        return some channel
      else do
        modify fun g => g.close task channel
        return none)

def acquireNew (task : Nat) (endpoint : Endpoint) : Task (Option Nat) := do
  let channel ← openChannel task endpoint
  let g ← get
  if g.isHealthy channel then do
    handOut task channel
    return some channel
  else do
    modify fun g => g.forget task (.probedUnhealthy channel)
    return none

def acquireEach (config : ClientConfig) (task : Nat) : Nat → Task Nat
  | 0 => raise ⟨.other, s!"Failed to acquire connection after {config.retryCount} attempts"⟩
  | attempts + 1 => do
    let endpoint ← selectEndpoint config
    match ← acquirePooled task endpoint with
    | some channel => return channel
    | none => do
      let opened ← exceptException (acquireNew task endpoint) fun _ => do
        outcome (← wait Call.sleep)
        return none
      match opened with
      | some channel => return channel
      | none => acquireEach config task attempts

def acquire (config : ClientConfig) (task : Nat) : Task Nat := acquireEach config task config.retryCount

def putBack (config : ClientConfig) (task channel : Nat) : Task Unit := do
  let g ← get
  let endpoint := (g.channels channel).endpoint
  let pool ← poolOf endpoint
  if pool.items.length < config.maxIdleConn then
    modify fun g => g.append task endpoint pool channel
  else
    modify fun g => g.close task channel

/-- A caller releases only a channel that it has, and then has it no more. -/
def release (config : ClientConfig) (task channel : Nat) : Task Unit := do
  let g ← get
  if channel ∈ g.held then do
    modify fun g => g.giveBack task channel
    tryCatch (withPermit (putBack config task channel)) fun e => do
      modify fun g => g.keep task channel
      throw e
  else
    return ()

def evictUnhealthyConnections (endpoint : Endpoint) : Task Unit := do
  let pool ← poolOf endpoint
  modify fun g => g.evict endpoint pool

/-- The loop, for this many rounds; a task that is followed no further ends as one that
is cancelled. -/
def warmPool (config : ClientConfig) (task : Nat) (endpoint : Endpoint) : Nat → Task Unit
  | 0 => throw .cancelled
  | rounds + 1 => do
    let pool ← poolOf endpoint
    if pool.items.length < config.maxConnPerEndpoint then do
      let channel ← openChannel task endpoint
      let g ← get
      if g.isHealthy channel then do
        let pool ← poolOf endpoint
        modify fun g => g.append task endpoint pool channel
      else
        modify fun g => g.close task channel
      warmPool config task endpoint rounds
    else
      return ()

def checkEndpointHealth (config : ClientConfig) (task rounds : Nat) (endpoint : Endpoint) : Task Unit :=
  exceptException (withPermit (do
    evictUnhealthyConnections endpoint
    warmPool config task endpoint rounds)) fun _ => return ()

def healthCheckLoop (config : ClientConfig) : Nat → Task Unit
  | 0 => throw .cancelled
  | rounds + 1 => do
    modify fun g => { g with scheduled := g.scheduled ++ config.keys }
    exceptException (do outcome (← wait Call.gather)) fun _ => return ()
    outcome (← wait Call.sleep)
    healthCheckLoop config rounds

def beginCheck (config : ClientConfig) (task index rounds : Nat) : Task Unit := do
  let g ← get
  match g.scheduled[index]? with
  | none => return ()
  | some endpoint => do
    modify fun g => { g with scheduled := g.scheduled.eraseIdx index }
    checkEndpointHealth config task rounds endpoint

/-- `__aexit__`. -/
def shutdown (config : ClientConfig) : Task Unit := do
  let joined : Except Interrupt Unit ← wait Call.joinHealthTask
  match joined with
  | .error (.raised e) => raise e
  | .ok () | .error .cancelled =>
    config.keys.forM fun endpoint => do
      let pool ← poolOf endpoint
      modify fun g => g.drain endpoint pool

/-- A caller may probe a channel that it has. -/
inductive Operation where
  | acquire
  | release (channel : Nat)
  | checkHealth (channel : Nat)
  | healthCheckLoop (rounds : Nat)
  | check (index rounds : Nat)
  | shutdown

def Operation.run (config : ClientConfig) (task : Nat) : Operation → Task Unit
  | acquire => do
    let _ ← GrpcClient.acquire config task
    return ()
  | release channel => GrpcClient.release config task channel
  | checkHealth channel => do
    let g ← get
    if channel ∈ g.held then GrpcClient.checkHealth channel else return ()
  | healthCheckLoop rounds => GrpcClient.healthCheckLoop config rounds
  | check index rounds => beginCheck config task index rounds
  | shutdown => GrpcClient.shutdown config

end KuvaAI.GrpcClient
