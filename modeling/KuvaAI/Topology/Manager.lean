import KuvaAI.Lib.Coroutine
import KuvaAI.Lib.UndirectedGraph
import KuvaAI.Python.Value
import Mathlib.Data.Finset.Basic

/-! The network topology of topology_manager.py: its updates, the balancing that
follows them and the failover of a node. Requests to nodes and all else a task waits
for are outside; so are the circuit breakers, the Kubernetes client, the order in
which a set is iterated and the arithmetic of floats. -/
namespace KuvaAI.Topology
open Python Coroutine

abbrev NodeId := String

abbrev AgentId := String

abbrev Attributes := Dict String Value

inductive BalancingStrategy where
  | roundRobin | latencyAware | resourceBased | geoAffinity
  deriving DecidableEq, Repr

structure TopologyConfig where
  balancingStrategy : BalancingStrategy
  enableAutoScaling : Bool
  minNodeCount : Int
  maxNodeCount : Int

structure NodeState where
  nodeId : NodeId
  agents : Finset AgentId
  resources : Dict String Flt

def NodeState.fresh (nodeId : NodeId) : NodeState := ⟨nodeId, ∅, Dict.empty⟩

def NodeState.resource (state : NodeState) (name : String) : Flt :=
  (state.resources.get? name).getD (.finite 0)

structure NodeInfo where
  id : NodeId
  metadata : Attributes

structure Link where
  source : NodeId
  target : NodeId
  metrics : Attributes

structure TopologyUpdate where
  nodes : List NodeInfo
  links : List Link
  removedNodes : List NodeId

structure NetworkTopology where
  graph : UndirectedGraph NodeId Attributes Attributes
  nodeStates : Dict NodeId NodeState
  locked : Bool
  keyed : ∀ id state, nodeStates.get? id = some state → state.nodeId = id

namespace NetworkTopology

def init : NetworkTopology :=
  ⟨UndirectedGraph.empty, Dict.empty, false, fun _ _ found => nomatch found⟩

def setState (t : NetworkTopology) (state : NodeState) : NetworkTopology :=
  { t with
    nodeStates := t.nodeStates.set state.nodeId state
    keyed := by
      intro id other found
      rw [Dict.get?_set] at found
      split at found
      · rename_i same
        cases found
        exact same.symm
      · exact t.keyed id other found }

def popState (t : NetworkTopology) (nodeId : NodeId) : NetworkTopology :=
  { t with
    nodeStates := t.nodeStates.erase nodeId
    keyed := by
      intro id other found
      rw [Dict.get?_erase] at found
      split at found
      · cases found
      · exact t.keyed id other found }

end NetworkTopology

inductive Call where
  | isOpen (node : NodeId)
  | recordFailure (node : NodeId)
  | iterate (agents : Finset AgentId)
  | averageLoad (loads : List (Flt × Flt)) (nodes : Nat)
  | createPod (name : String)
  | deletePod (name : NodeId)
  | acquire
  | enterSession
  | exitSession
  | migrate (target : NodeId) (agent : AgentId) (source : NodeId)
  | health (node : NodeId)
  | text
  | exitResponse
  | sleep
  deriving DecidableEq

def Answer : Call → Type
  | .isOpen _ => Except Exn Bool
  | .recordFailure _ => Except Exn Unit
  | .iterate agents => { order : List AgentId // (order : Multiset AgentId) = agents.val }
  | .averageLoad _ _ => Flt
  | .createPod _ => Except Exn Unit
  | .deletePod _ => Except Exn Unit
  | .migrate _ _ _ => Except Interrupt Int
  | .health _ => Except Interrupt Int
  | .text => Except Interrupt String
  | _ => Except Interrupt Unit

abbrev Task := Coroutine NetworkTopology Answer Interrupt

def raise {α : Type} (e : Exn) : Task α := throw (.raised e)

def raiseIf (c : Prop) [Decidable c] (e : Exn) : Task Unit :=
  if c then raise e else return ()

def lift {α : Type} : Except Exn α → Task α
  | .ok a => pure a
  | .error e => raise e

def withAsync {α β : Type} (enter : Task α) (exit : Task Unit) (body : α → Task β) : Task β := do
  let entered ← enter
  finallyDo (body entered) exit

def enterSession : Task Unit := do MonadExcept.ofExcept (← wait Call.enterSession)

def exitSession : Task Unit := do MonadExcept.ofExcept (← wait Call.exitSession)

def exitResponse : Task Unit := do MonadExcept.ofExcept (← wait Call.exitResponse)

def responseText : Task String := do MonadExcept.ofExcept (← wait Call.text)

/-- `asyncio.Lock.acquire`: it waits only for a lock that is taken. -/
def acquire : Task Unit := do
  let t ← get
  if t.locked then
    MonadExcept.ofExcept (← wait Call.acquire)
  modify fun t => { t with locked := true }

def release : Task Unit := modify fun t => { t with locked := false }

def nodeState (nodeId : NodeId) : Task NodeState := do
  let t ← get
  match t.nodeStates.get? nodeId with
  | some state => return state
  | none => raise ⟨.keyError, "'" ++ nodeId ++ "'"⟩

def updated (old : Attributes) (new : Attributes) : Attributes :=
  new.entries.foldl (fun d e => d.set e.1 e.2) old

/-- The keyword arguments of a call cannot name its positional parameters. -/
def checkKeywords (function : String) (parameters : List String) (keywords : Attributes) :
    Task Unit :=
  match parameters.find? (fun p => p ∈ keywords.keys) with
  | none => return ()
  | some p => raise ⟨.typeError,
      "Graph." ++ function ++ "() got multiple values for argument '" ++ p ++ "'"⟩

def addNode (node : NodeInfo) : Task Unit := do
  checkKeywords "add_node" ["self", "node_for_adding"] node.metadata
  modify fun t => { t with
    graph := t.graph.addNode (fun old => updated (old.getD Dict.empty) node.metadata) node.id }
  let t ← get
  if node.id ∉ t.nodeStates.keys then
    modify fun t => t.setState (.fresh node.id)

def addLink (link : Link) : Task Unit := do
  checkKeywords "add_edge" ["self", "u_of_edge", "v_of_edge"] link.metrics
  modify fun t => { t with
    graph := t.graph.addEdge Dict.empty (fun old => updated (old.getD Dict.empty) link.metrics)
      link.source link.target }

def removeNode (nodeId : NodeId) : Task Unit := do
  let t ← get
  raiseIf (nodeId ∉ t.graph.nodes.keys) ⟨.other, "The node " ++ nodeId ++ " is not in the graph."⟩
  modify fun t => { t with graph := t.graph.removeNode nodeId }
  modify fun t => t.popState nodeId

def applyUpdate (update : TopologyUpdate) : Task Unit := do
  update.nodes.forM addNode
  update.links.forM addLink
  update.removedNodes.forM removeNode

def removeAgent (nodeId : NodeId) (agentId : AgentId) : Task Unit := do
  let state ← nodeState nodeId
  raiseIf (agentId ∉ state.agents) ⟨.keyError, "'" ++ agentId ++ "'"⟩
  modify fun t => t.setState { state with agents := state.agents.erase agentId }

def addAgent (nodeId : NodeId) (agentId : AgentId) : Task Unit := do
  let state ← nodeState nodeId
  modify fun t => t.setState { state with agents := insert agentId state.agents }

/-- `next(...)`; a `StopIteration` does not leave a coroutine as such. -/
def sourceNode (agentId : AgentId) : Task NodeId := do
  let t ← get
  match t.nodeStates.entries.find? (fun e => agentId ∈ e.2.agents) with
  | some e => return e.1
  | none => raise ⟨.runtimeError, "coroutine raised StopIteration"⟩

def migrateAgent (agentId : AgentId) (targetNode : NodeId) : Task Unit := do
  let source ← sourceNode agentId
  withAsync enterSession exitSession fun _ =>
    withAsync (do MonadExcept.ofExcept (← wait (Call.migrate targetNode agentId source))) exitResponse fun status =>
      if status = 202 then do
        removeAgent source agentId
        addAgent targetNode agentId
      else do
        let _ ← responseText

def leastBy (key : NodeState → Flt) (best : NodeState) : List NodeState → NodeState
  | [] => best
  | state :: rest => leastBy key (if Flt.lt (key state) (key best) then state else best) rest

def minBy (key : NodeState → Flt) : List NodeState → Task NodeState
  | [] => raise ⟨.valueError, "min() arg is an empty sequence"⟩
  | state :: rest => return leastBy key state rest

def findOptimalNode (_agentId : AgentId) (pressure : String) : Task NodeId := do
  let t ← get
  let least ← minBy (fun state => state.resource pressure) t.nodeStates.values
  return least.nodeId

def evictEach (pressure : String) : List AgentId → Task Unit
  | [] => return ()
  | agentId :: rest => do
    let target ← findOptimalNode agentId pressure
    migrateAgent agentId target
    evictEach pressure rest

def evictAgents (nodeId : NodeId) (pressure : String) : Task Unit := do
  let state ← nodeState nodeId
  let listed ← call (Call.iterate state.agents)
  evictEach pressure (listed.1.take 5)

def agentsOf : List NodeState → Task (List AgentId)
  | [] => return []
  | state :: rest => do
    let listed ← call (Call.iterate state.agents)
    let others ← agentsOf rest
    return listed.1 ++ others

/-- `nodes[i % len(nodes)]`. -/
def nodeAt (nodes : List NodeId) (i : Nat) : Task NodeId :=
  match nodes[i % nodes.length]? with
  | some node => return node
  | none => raise ⟨.zeroDivisionError, "integer modulo by zero"⟩

def distribute (nodes : List NodeId) : Nat → List AgentId → Task Unit
  | _, [] => return ()
  | i, agentId :: rest => do
    let target ← nodeAt nodes i
    let state ← nodeState target
    if agentId ∉ state.agents then
      migrateAgent agentId target
    distribute nodes (i + 1) rest

def roundRobinBalance : Task Unit := do
  let t ← get
  let agents ← agentsOf t.nodeStates.values
  distribute t.graph.nodes.keys 0 agents

def latencyAwareBalance : Task Unit :=
  raise ⟨.attributeError, "'NetworkTopology' object has no attribute '_calculate_latency_matrix'"⟩

/-- A dictionary that has changed its size cannot be iterated further. -/
def checkSize (size : Nat) : Task Unit := do
  let t ← get
  raiseIf (t.nodeStates.keys.length ≠ size)
    ⟨.runtimeError, "dictionary changed size during iteration"⟩

def relieve (nodeId : NodeId) (state : NodeState) : Task Unit :=
  let cpuUsage := state.resource "cpu"
  let memUsage := state.resource "memory"
  if Flt.lt (.finite 80) cpuUsage ∨ Flt.lt (.finite 80) memUsage then
    evictAgents nodeId (if Flt.lt memUsage cpuUsage then "cpu" else "memory")
  else
    return ()

/-- The loop over a table of `size` entries when `left` of them are to come. -/
def relieveFrom (size : Nat) : Nat → Task Unit
  | 0 => checkSize size
  | left + 1 => do
    checkSize size
    let t ← get
    match t.nodeStates.entries[size - (left + 1)]? with
    | none => return ()
    | some e => do
      relieve e.1 e.2
      relieveFrom size left

def resourceBasedBalance : Task Unit := do
  let t ← get
  relieveFrom t.nodeStates.keys.length t.nodeStates.keys.length

def geoAffinityBalance : Task Unit := return ()

def rebalanceClusters (config : TopologyConfig) : Task Unit :=
  match config.balancingStrategy with
  | .roundRobin => roundRobinBalance
  | .latencyAware => latencyAwareBalance
  | .resourceBased => resourceBasedBalance
  | .geoAffinity => geoAffinityBalance

/-- The client's exceptions are caught and logged. -/
def scaleUp : Task Unit := do
  let t ← get
  let _ ← call (Call.createPod ("kuva-node-" ++ toString (t.nodeStates.keys.length + 1)))

def scaleDown : Task Unit := do
  let t ← get
  let candidate ← minBy (fun state => Flt.ofInt state.agents.card) t.nodeStates.values
  let _ ← call (Call.deletePod candidate.nodeId)

def autoScaleNodes (config : TopologyConfig) : Task Unit :=
  if config.enableAutoScaling then do
    let t ← get
    let loads := t.nodeStates.values.map fun state => (state.resource "cpu", state.resource "memory")
    let currentNodes := t.nodeStates.keys.length
    raiseIf (currentNodes = 0) ⟨.zeroDivisionError, "division by zero"⟩
    let average ← call (Call.averageLoad loads currentNodes)
    if Flt.lt (.finite 80) average ∧ currentNodes < config.maxNodeCount then
      scaleUp
    else if Flt.lt average (.finite 20) ∧ config.minNodeCount < currentNodes then
      scaleDown
    else
      return ()
  else
    return ()

def updateTopology (config : TopologyConfig) (update : TopologyUpdate) : Task Unit :=
  withAsync acquire release fun _ => do
    applyUpdate update
    rebalanceClusters config
    autoScaleNodes config

/-- The first `rounds` rounds of the loop; a task that is followed no further ends as
one that is cancelled. -/
def failoverEach : Nat → Finset AgentId → Task Unit
  | 0, _ => throw .cancelled
  | rounds + 1, agentsToMove => do
    let listed ← call (Call.iterate agentsToMove)
    match listed.1 with
    | [] => return ()
    | agentId :: _ => do
      let target ← findOptimalNode agentId "cpu"
      let ended ← attempt (migrateAgent agentId target)
      match ended with
      | .ok () => failoverEach rounds (agentsToMove.erase agentId)
      | .error .cancelled => throw .cancelled
      | .error (.raised _) => do
        MonadExcept.ofExcept (← wait Call.sleep)
        failoverEach rounds (insert agentId (agentsToMove.erase agentId))

def failoverAgents (rounds : Nat) (failedNode : NodeId) : Task Unit := do
  let state ← nodeState failedNode
  failoverEach rounds state.agents

def checkHealth (nodeId : NodeId) : Task Unit :=
  withAsync enterSession exitSession fun _ =>
    withAsync (do MonadExcept.ofExcept (← wait (Call.health nodeId))) exitResponse fun status =>
      if status = 200 then
        return ()
      else do
        let text ← responseText
        raise ⟨.runtimeError, "Health check failed: " ++ text⟩

def handleNodeFailure (rounds : Nat) (nodeId : NodeId) : Task Unit := do
  let tripped ← lift (← call (Call.isOpen nodeId))
  if tripped then
    return ()
  else
    tryCatch (checkHealth nodeId) fun
      | .raised _ => do
        lift (← call (Call.recordFailure nodeId))
        failoverAgents rounds nodeId
      | .cancelled => throw .cancelled

end KuvaAI.Topology
