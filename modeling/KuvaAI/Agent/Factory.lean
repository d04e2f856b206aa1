import KuvaAI.Lib.Acyclic
import KuvaAI.Lib.Dict
import KuvaAI.Lib.Effect
import KuvaAI.Lib.Runs
import KuvaAI.Python.Value

/-! The agent factory of factory.py: configurations, the resolution of an agent's
dependencies, and `create` behind its memo. The objects it passes around, their
loaders and the constructors of the agents are outside. -/
namespace KuvaAI.Factory
open Python Effect

inductive Agent where
  | mk (cls : String) (dependencies : List (String × Agent))

def Agent.cls : Agent → String
  | mk cls _ => cls

def Agent.dependencies : Agent → List (String × Agent)
  | mk _ dependencies => dependencies

inductive Error where
  | configurationError (text : String)
  | dependencyError (text : String)
  | builtin (e : Exn)
  deriving DecidableEq, Repr

def Error.text : Error → String
  | configurationError text => text
  | dependencyError text => text
  | builtin e => e.text

abbrev ConfigData := Dict String Value

/-- What the factory asks of contexts, configurations and their sources. -/
structure Objects (Obj : Type) where
  typeName : Obj → String
  hashable : Obj → Bool
  truth : Obj → Bool
  configDependency : Obj → String → Except Exn Obj

structure AgentClass (Obj : Type) where
  name : String
  isAgent : Bool
  dependencies : Except Exn (Dict String String)
  configModel : ConfigData → Except Exn Obj
  construct : Obj → Obj → List (String × Agent) → Except Exn Unit

structure FactoryConfig where
  cacheEnabled : Bool
  strictMode : Bool
  configLoaderPriority : List String

structure DependencyGraph where
  graph : Dict String (List String)
  reverseGraph : Dict String (List String)

namespace DependencyGraph

def link (edges : Dict String (List String)) (source target : String) : Dict String (List String) :=
  edges.set source (((edges.get? source).getD []).insert target)

def addDependency (g : DependencyGraph) (dependent dependency : String) : DependencyGraph :=
  ⟨link g.graph dependent dependency, link g.reverseGraph dependency dependent⟩

def getDependencies (g : DependencyGraph) (agentType : String) : List String :=
  (g.graph.get? agentType).getD []

/-- `add_dependency(dependent, *dependencies)`: it takes exactly one dependency. -/
def addStarred (g : DependencyGraph) (dependent : String) : List String → Except Exn DependencyGraph
  | [dependency] => .ok (g.addDependency dependent dependency)
  | [] => .error ⟨.typeError, "DependencyGraph.add_dependency() missing 1 required positional " ++
      "argument: 'dependency'"⟩
  | dependencies => .error ⟨.typeError, "DependencyGraph.add_dependency() takes 3 positional " ++
      "arguments but " ++ toString (dependencies.length + 2) ++ " were given"⟩

end DependencyGraph

structure CreateCall (Obj : Type) where
  agentType : String
  context : Obj
  config : Option Obj
  configSource : Option Obj
  dependencies : Option (List (String × Agent))

structure AgentFactory (Obj : Type) where
  registry : Dict String (AgentClass Obj)
  configLoaders : Dict String (Obj → Except Exn ConfigData)
  config : FactoryConfig
  cache : Dict String Agent
  /-- What `lru_cache` keeps of the calls of `create` that have returned. -/
  memo : List (CreateCall Obj × Agent)
  dependencyGraph : DependencyGraph

section Operations

variable {Obj : Type}

abbrev Action (Obj : Type) := Effect (AgentFactory Obj) Error

def lift {α : Type} : Except Exn α → Action Obj α
  | .ok a => pure a
  | .error e => throw (.builtin e)

def AgentFactory.init (config : FactoryConfig) : AgentFactory Obj where
  registry := Dict.empty
  configLoaders := Dict.empty
  config := config
  cache := Dict.empty
  memo := []
  dependencyGraph := ⟨Dict.empty, Dict.empty⟩

def register (cls : AgentClass Obj) : Action Obj Unit :=
  if cls.isAgent then
    modify fun s => { s with registry := s.registry.set cls.name cls }
  else
    throw (.configurationError ("Invalid agent class registration: " ++ cls.name))

def invalidateCache : Option String → Action Obj Unit
  | some agentName => modify fun s => { s with cache := s.cache.erase agentName }
  | none => modify fun s => { s with cache := Dict.empty }

variable (objects : Objects Obj)

/-- `config_data.update(loader.load(config_source))` for each configured loader. -/
def loadConfig (s : AgentFactory Obj) (source : Obj) :
    List String → ConfigData → Except Exn ConfigData
  | [], data => .ok data
  | loaderName :: rest, data =>
    match s.configLoaders.get? loaderName with
    | none => loadConfig s source rest data
    | some load =>
      match load source with
      | .ok more => loadConfig s source rest (more.entries.foldl (fun d e => d.set e.1 e.2) data)
      | .error e => if s.config.strictMode then .error e else loadConfig s source rest data

def resolveConfig (agentType : String) (configSource : Option Obj) : Action Obj Obj := do
  let s ← get
  let data ← lift (match configSource.filter objects.truth with
    | some source => loadConfig s source s.config.configLoaderPriority Dict.empty
    | none => .ok Dict.empty)
  match s.registry.get? agentType with
  | none => throw (.configurationError ("Unregistered agent type: " ++ agentType))
  | some cls =>
    match cls.configModel data with
    | .ok config => return config
    | .error e =>
      if e.cls = .validationError then
        throw (.configurationError ("Invalid config for " ++ agentType ++ ": " ++ e.text))
      else
        throw (.builtin e)

/-- The first argument that cannot be hashed; a dictionary never can. -/
def unhashable (call : CreateCall Obj) : Option String :=
  match ([some call.context, call.config, call.configSource].reduceOption).find?
      (fun obj => !objects.hashable obj) with
  | some obj => some (objects.typeName obj)
  | none => call.dependencies.map fun _ => "dict"

variable [DecidableEq Obj]

def CreateCall.sameKey (a b : CreateCall Obj) : Bool :=
  a.agentType = b.agentType && a.context = b.context && a.config = b.config &&
    a.configSource = b.configSource

/-- `lru_cache`: the arguments are hashed before the body runs, and only what the
body returns is kept. -/
def memoised (body : CreateCall Obj → Action Obj Agent) (call : CreateCall Obj) :
    Action Obj Agent := do
  match unhashable objects call with
  | some typeName => throw (.builtin ⟨.typeError, "unhashable type: '" ++ typeName ++ "'"⟩)
  | none =>
    match (← get).memo.find? fun entry => entry.1.sameKey call with
    | some entry => return entry.2
    | none => do
      let agent ← body call
      modify fun s => { s with memo := (call, agent) :: s.memo }
      return agent

def resolveDependency (create : CreateCall Obj → Action Obj Agent) (context config : Obj)
    (depName depType : String) : Action Obj Agent :=
  tryCatch
    (do
      let s ← get
      match (if s.config.cacheEnabled then s.cache.get? depName else none) with
      | some agent => return agent
      | none => do
        let source ← lift (objects.configDependency config depName)
        let depConfig ← resolveConfig objects depType (some source)
        let agent ← create
          { agentType := depType, context, config := some depConfig, configSource := none
            dependencies := some [] }
        modify fun s => if s.config.cacheEnabled then
          { s with cache := s.cache.set depName agent } else s
        return agent)
    fun e => throw (.dependencyError ("Failed to resolve " ++ depName ++ ": " ++ e.text))

def resolveEach (create : CreateCall Obj → Action Obj Agent) (context config : Obj) :
    List (String × String) → Action Obj (List (String × Agent))
  | [] => return []
  | (depName, depType) :: rest => do
    let agent ← resolveDependency objects create context config depName depType
    let others ← resolveEach create context config rest
    return (depName, agent) :: others

def registeredClass (agentType : String) : Action Obj (AgentClass Obj) := do
  match (← get).registry.get? agentType with
  | some cls => return cls
  | none => throw (.builtin ⟨.keyError, "'" ++ agentType ++ "'"⟩)

def resolveDependencies (create : CreateCall Obj → Action Obj Agent) (agentType : String)
    (context config : Obj) : Action Obj (List (String × Agent)) := do
  let cls ← registeredClass agentType
  let dependencies ← lift cls.dependencies
  resolveEach objects create context config dependencies.entries

/-- `config or self._resolve_config(agent_type, config_source)`. -/
def finalConfig (call : CreateCall Obj) : Action Obj Obj :=
  match call.config.filter objects.truth with
  | some config => pure config
  | none => resolveConfig objects call.agentType call.configSource

/-- `dependencies or self._resolve_dependencies(agent_type, context, final_config)`. -/
def resolvedDeps (create : CreateCall Obj → Action Obj Agent) (call : CreateCall Obj)
    (config : Obj) : Action Obj (List (String × Agent)) :=
  match call.dependencies.filter fun deps => !deps.isEmpty with
  | some deps => pure deps
  | none => resolveDependencies objects create call.agentType call.context config

/-- `self._dependency_graph.add_dependency(agent_type, *resolved_deps.keys())`. -/
def recordDependencies (agentType : String) (deps : List (String × Agent)) : Action Obj Unit := do
  let s ← get
  let graph ← lift (s.dependencyGraph.addStarred agentType (deps.map Prod.fst))
  set { s with dependencyGraph := graph }

def createAgent (create : CreateCall Obj → Action Obj Agent) (call : CreateCall Obj) :
    Action Obj Agent := do
  let config ← finalConfig objects call
  let deps ← resolvedDeps objects create call config
  let cls ← registeredClass call.agentType
  lift (cls.construct config call.context deps)
  recordDependencies call.agentType deps
  return .mk cls.name deps

/-- `except Exception` around the body of `create`. -/
def systemError : Error → Error
  | .builtin e => .builtin ⟨.runtimeError, "Factory system error: " ++ e.text⟩
  | e => e

/-- `create`, as deep as the interpreter lets it call itself. -/
def create : Nat → CreateCall Obj → Action Obj Agent
  | 0, _ => throw (.builtin ⟨.runtimeError, "maximum recursion depth exceeded"⟩)
  | depth + 1, call =>
    memoised objects
      (fun call => tryCatch (createAgent objects (create depth) call) fun e => throw (systemError e))
      call

inductive Call (Obj : Type) where
  | configure (config : FactoryConfig) (loaders : Dict String (Obj → Except Exn ConfigData))
  | register (cls : AgentClass Obj)
  | invalidateCache (agentName : Option String)
  | create (call : CreateCall Obj)

def Call.perform (depth : Nat) : Call Obj → Action Obj Unit
  | .configure config loaders => modify fun s => { s with config, configLoaders := loaders }
  | .register cls => Factory.register cls
  | .invalidateCache agentName => Factory.invalidateCache agentName
  | .create call => do
    let _ ← Factory.create objects depth call

def after (depth : Nat) (s : AgentFactory Obj) (call : Call Obj) : AgentFactory Obj :=
  (call.perform objects depth s).2

end Operations

end KuvaAI.Factory
