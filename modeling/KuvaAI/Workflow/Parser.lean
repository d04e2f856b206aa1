import KuvaAI.Lib.DiGraph
import KuvaAI.Python.Value

/-! The pipeline builder of the workflow parser: the rules on a validated
configuration, the construction of the graph with its hooks, and the passes that
analyse it. Graphs are networkx's; `topological_generations` is outside. -/
namespace KuvaAI.Workflow
open Python

/-- The attributes of a node that some function of the module reads or sets. -/
structure NodeData (V : Type) where
  type : Option String
  executor : Option String
  hooks : Option (Dict String (List String))
  executionGroup : Option Nat
  parentNode : Option V
  tasks : Option (List V)

namespace NodeData

variable {V : Type}

def blank : NodeData V := ⟨none, none, none, none, none, none⟩

/-- `add_node` on a node that is there: the new attributes win. -/
def merge (old new : NodeData V) : NodeData V where
  type := new.type <|> old.type
  executor := new.executor <|> old.executor
  hooks := new.hooks <|> old.hooks
  executionGroup := new.executionGroup <|> old.executionGroup
  parentNode := new.parentNode <|> old.parentNode
  tasks := new.tasks <|> old.tasks

end NodeData

/-- Edges carry their `dependency_type`, if they have one. -/
abbrev Dag (V : Type) := DiGraph V (NodeData V) (Option String)

namespace Dag

variable {V : Type} [DecidableEq V]

def add (g : Dag V) (v : V) (data : NodeData V) : Dag V := g.addNode NodeData.merge v data

def join (g : Dag V) (u v : V) : Dag V := g.addEdge .blank (fun old => old.getD none) u v

def joinAs (dependencyType : String) (g : Dag V) (u v : V) : Dag V :=
  g.addEdge .blank (fun _ => some dependencyType) u v

end Dag

inductive PipelineError where
  | invalidPipelineError (text : String)
  | builtin (e : Exn)
  deriving DecidableEq, Repr

def PipelineError.text : PipelineError → String
  | invalidPipelineError text => text
  | builtin e => e.text

/-- `depends_on` after validation. A value that is neither a string nor a list is
left to the second member of the union and becomes a string. -/
inductive DependsOn where
  | names (deps : List String)
  | text (s : String)
  deriving DecidableEq, Repr

def DependsOn.deps : DependsOn → List String
  | names deps => deps
  | text s => s.toList.map Char.toString

def nodeTypes : List String := ["task", "decision", "parallel", "service", "sensor", "control"]

/-- The pattern of `NodeConfig.type`; its `$` allows a newline at the end. -/
def matchesType (type : String) : Bool :=
  nodeTypes.any fun name => type = name ∨ type = name ++ "\n"

/-- The fields of a node that building and analysing the graph use. -/
structure NodeConfig where
  type : String
  executor : Option String
  dependsOn : DependsOn
  hooks : Dict String (List String)
  typed : matchesType type

structure PipelineConfig where
  nodes : Dict String NodeConfig
  minItems : nodes.entries ≠ []

section Rules

variable (order : SetOrder)

def validateNode (config : PipelineConfig) (nodeId : String) (nodeCfg : NodeConfig) :
    Except PipelineError Unit :=
  let invalidDeps := nodeCfg.dependsOn.deps.dedup.filter fun dep => dep ∉ config.nodes.keys
  if invalidDeps ≠ [] then
    .error (.invalidPipelineError
      ("Node '" ++ nodeId ++ "' has invalid dependencies: " ++ order.text invalidDeps))
  else if nodeCfg.type = "service" ∧ nodeCfg.executor = some "default" then
    .error (.invalidPipelineError
      ("Service node '" ++ nodeId ++ "' requires explicit executor"))
  else
    .ok ()

def validateDagRules (config : PipelineConfig) : Except PipelineError Unit :=
  config.nodes.entries.forM fun (nodeId, nodeCfg) => validateNode order config nodeId nodeCfg

end Rules

section Building

/-- The module has no global variable `dag`. -/
def moduleDag : Option (Dag String) := none

variable (topologicalGenerations : Dag String → Except Exn (List (List String)))

def calculateExecutionGroup (nodeId : String) : Except PipelineError Nat :=
  match moduleDag with
  | none => .error (.builtin ⟨.nameError, "name 'dag' is not defined"⟩)
  | some dag =>
    match topologicalGenerations dag with
    | .error e => .error (.builtin e)
    | .ok generations =>
      match generations.findIdx? fun gen => nodeId ∈ gen with
      | some i => .ok i
      | none => .error (.builtin ⟨.other, ""⟩)

def addConfigured (dag : Dag String) (nodeId : String) (nodeCfg : NodeConfig) :
    Except PipelineError (Dag String) := do
  let group ← calculateExecutionGroup topologicalGenerations nodeId
  return dag.add nodeId
    { NodeData.blank with
      type := some nodeCfg.type, executor := nodeCfg.executor, hooks := some nodeCfg.hooks
      executionGroup := some group }

def hookTypes : List String := ["pre_execute", "post_success", "post_failure"]

def addHook (nodeId : String) (state : Dag String × Option String) (hookId : String) :
    Dag String × Option String :=
  let dag := (state.1.add hookId
    { NodeData.blank with type := some "hook", parentNode := some nodeId }).join nodeId hookId
  match state.2 with
  | some prevHook => (dag.join prevHook hookId, some hookId)
  | none => (dag, some hookId)

def hookIds (nodeId : String) (hooks : Dict String (List String)) : List String :=
  hookTypes.flatMap fun hookType =>
    ((hooks.get? hookType).getD []).map fun hook => nodeId ++ "." ++ hookType ++ "." ++ hook

def processNodeHooks (dag : Dag String) (nodeId : String) : Except PipelineError (Dag String) :=
  match (dag.nodes.get? nodeId).bind NodeData.hooks with
  | none => .error (.builtin ⟨.keyError, "hooks"⟩)
  | some hooks => .ok ((hookIds nodeId hooks).foldl (addHook nodeId) (dag, none)).1

/-- The iteration over `dag.nodes`; it ends with an error once their number changes. -/
def processHooksFrom (size : Nat) : List String → Dag String → Except PipelineError (Dag String)
  | nodeIds, dag =>
    if dag.nodes.entries.length ≠ size then
      .error (.builtin ⟨.runtimeError, "dictionary changed size during iteration"⟩)
    else
      match nodeIds with
      | [] => .ok dag
      | nodeId :: rest => do
        let dag ← processNodeHooks dag nodeId
        processHooksFrom size rest dag

def processHookDependencies (dag : Dag String) : Except PipelineError (Dag String) :=
  processHooksFrom dag.nodes.entries.length dag.nodes.keys dag

def buildDag (config : PipelineConfig) : Except PipelineError (Dag String) := do
  let dag ← config.nodes.entries.foldlM
    (fun dag (nodeId, nodeCfg) => addConfigured topologicalGenerations dag nodeId nodeCfg)
    DiGraph.empty
  let pairs := config.nodes.entries.flatMap fun (nodeId, nodeCfg) =>
    nodeCfg.dependsOn.deps.map fun dep => (dep, nodeId)
  let dag := pairs.foldl (fun dag (dep, nodeId) => Dag.joinAs "explicit" dag dep nodeId) dag
  processHookDependencies dag

end Building

section Analysis

variable (order : SetOrder)

def descendants (dag : Dag String) (source : String) : List String :=
  match CycleSearch.dfs dag.successors (dag.nodes.keys.length + 1) source .init with
  | some s => s.visited.filter fun v => v ≠ source
  | none => []

def detectUnusedNodes (dag : Dag String) : Except PipelineError Unit :=
  let roots := dag.nodes.keys.filter fun n => dag.predecessors n = []
  let reachable := roots.flatMap (descendants dag)
  let unreachable := dag.nodes.keys.filter fun n => n ∉ reachable ∧ n ∉ roots
  if unreachable ≠ [] then
    .error (.invalidPipelineError ("Unreachable nodes detected: " ++ order.text unreachable))
  else
    .ok ()

/-- `dag.in_edges[node] = edges`: the view cannot be assigned to. -/
def setInEdges (_node : String) (_edges : List (String × String)) : Except PipelineError Unit :=
  .error (.builtin ⟨.typeError, "'InEdgeView' object does not support item assignment"⟩)

def optimizeEdgeOrdering (dag : Dag String) : Except PipelineError Unit :=
  let group (n : String) : Nat := ((dag.nodes.get? n).bind NodeData.executionGroup).getD 0
  dag.nodes.keys.forM fun node =>
    let inEdges := (dag.predecessors node).map fun pred => (pred, node)
    setInEdges node (inEdges.mergeSort fun a b => group b.1 ≤ group a.1)

def analyzeDag (dag : Dag String) : Except PipelineError Unit := do
  if dag.isDirectedAcyclic then
    detectUnusedNodes order dag
    optimizeEdgeOrdering dag
  else
    .error (.invalidPipelineError "Pipeline contains cycles")

end Analysis

/-- The steps of `parse` from a validated configuration on. -/
def construct (order : SetOrder)
    (topologicalGenerations : Dag String → Except Exn (List (List String)))
    (config : PipelineConfig) : Except PipelineError (Dag String) := do
  validateDagRules order config
  let dag ← buildDag topologicalGenerations config
  analyzeDag order dag
  return dag

end KuvaAI.Workflow
