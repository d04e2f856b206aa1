import KuvaAI.Lib.CycleSearch
import KuvaAI.Lib.Dict
import KuvaAI.Lib.Effect
import KuvaAI.Lib.Runs
import KuvaAI.Python.Value

/-! The agent registry of registry.py: registration with its checks, removal, the
map of reverse dependencies, initialisation and the search for cycles. Plugin
descriptions and the import of a module are outside. -/
namespace KuvaAI.Registry
open Python

inductive ConfigModel where
  | notClass | notModel | model
  deriving DecidableEq, Repr

inductive DepType where
  | name (text : String)
  | unhashable (typeName : String)

/-- What the loop over the items of `dependencies()` meets: the types of the items, and
how it ends after them, as where there are no items or one is no pair. -/
structure Dependencies where
  depTypes : List DepType
  ends : Except Exn Unit

/-- An object that `register` can be handed: `text` is its `str`, `configModel`
what reading the attribute gives, `dependencies` how that class method ends. -/
structure AgentClass where
  name : String
  text : String
  isClass : Bool
  isAgent : Bool
  isBase : Bool
  configModel : Except Exn ConfigModel
  dependencies : Except Exn Dependencies

inductive Error where
  | registrationError (text : String)
  | dependencyConflictError (text : String)
  | builtin (e : Exn)
  deriving DecidableEq, Repr

structure PluginSpecs (Plugin : Type) where
  truth : Plugin → Bool
  create : Except Exn Plugin

structure RegistryEntry (Plugin : Type) where
  cls : AgentClass
  plugin : Plugin

structure AgentRegistry (Plugin : Type) where
  registry : Dict String (RegistryEntry Plugin)
  reverseDependencies : Dict String (List String)
  initialized : Bool

section Operations

variable {Plugin : Type}

def AgentRegistry.init : AgentRegistry Plugin := ⟨Dict.empty, Dict.empty, false⟩

abbrev Action (Plugin : Type) := Effect (AgentRegistry Plugin) Error

def lift {α : Type} : Except Error α → Action Plugin α
  | .ok a => pure a
  | .error e => throw e

def raiseUnless (c : Bool) (e : Error) : Except Error Unit := if c then .ok () else .error e

def validateAgentConfigModel (cls : AgentClass) : Except Error Unit :=
  match cls.configModel with
  | .error e =>
    if e.cls = .attributeError then
      .error (.registrationError ("Missing ConfigModel in " ++ cls.name))
    else
      .error (.builtin e)
  | .ok .notClass => .error (.builtin ⟨.typeError, "issubclass() arg 1 must be a class"⟩)
  | .ok .notModel => .error (.registrationError ("Invalid ConfigModel in " ++ cls.name))
  | .ok .model => .ok ()

def checkConfigModel (cls : AgentClass) : Except Error Unit :=
  match validateAgentConfigModel cls with
  | .error (.builtin ⟨.validationError, text⟩) =>
    .error (.registrationError ("Invalid config model for " ++ cls.name ++ ": " ++ text))
  | checked => checked

def pluginOr (specs : PluginSpecs Plugin) (pluginMeta : Option Plugin) : Except Error Plugin :=
  match pluginMeta.filter specs.truth, specs.create with
  | some plugin, _ => .ok plugin
  | none, .ok plugin => .ok plugin
  | none, .error e => .error (.builtin e)

def newEntry (specs : PluginSpecs Plugin) (s : AgentRegistry Plugin) (cls : AgentClass)
    (pluginMeta : Option Plugin) (override : Bool) : Except Error (RegistryEntry Plugin) := do
  raiseUnless cls.isClass
    (.registrationError ("Non-class object cannot be registered: " ++ cls.text))
  raiseUnless cls.isAgent (.registrationError ("Invalid agent class: " ++ cls.name))
  raiseUnless ((s.registry.get? cls.name).isNone || override)
    (.registrationError ("Agent " ++ cls.name ++ " already registered"))
  checkConfigModel cls
  let plugin ← pluginOr specs pluginMeta
  return { cls, plugin }

def addDependent (agentType : String) (reverse : Dict String (List String)) (depType : String) :
    Dict String (List String) :=
  reverse.set depType (((reverse.get? depType).getD []).insert agentType)

def addDependents (agentType : String) (ends : Except Exn Unit) : List DepType → Action Plugin Unit
  | [] => lift (ends.mapError .builtin)
  | .unhashable typeName :: _ =>
    throw (.builtin ⟨.typeError, "unhashable type: '" ++ typeName ++ "'"⟩)
  | .name depType :: rest => do
    modify fun s => { s with reverseDependencies := addDependent agentType s.reverseDependencies depType }
    addDependents agentType ends rest

def updateDependencyGraph (cls : AgentClass) : Action Plugin Unit := do
  match cls.dependencies with
  | .error e => throw (.builtin e)
  | .ok dependencies => addDependents cls.name dependencies.ends dependencies.depTypes

def unsafeRegister (specs : PluginSpecs Plugin) (cls : AgentClass) (pluginMeta : Option Plugin)
    (override : Bool) : Action Plugin AgentClass := do
  let s ← get
  let entry ← lift (newEntry specs s cls pluginMeta override)
  set { s with registry := s.registry.set cls.name entry }
  updateDependencyGraph cls
  return cls

def register (specs : PluginSpecs Plugin) (cls : AgentClass) (pluginMeta : Option Plugin)
    (override : Bool) : Action Plugin AgentClass :=
  unsafeRegister specs cls pluginMeta override

def AgentRegistry.dependents (s : AgentRegistry Plugin) (agentType : String) : List String :=
  (s.reverseDependencies.get? agentType).getD []

def unregister (order : SetOrder) (agentType : String) : Action Plugin Unit := do
  let s ← get
  if ¬ (s.registry.get? agentType).isSome then
    throw (.registrationError ("Agent " ++ agentType ++ " not registered"))
  else if s.dependents agentType ≠ [] then
    throw (.dependencyConflictError ("Cannot unregister " ++ agentType ++ " - required by " ++
      order.text (s.dependents agentType)))
  else
    set { s with registry := s.registry.erase agentType }

def AgentRegistry.nodes (s : AgentRegistry Plugin) : List String :=
  s.registry.keys ++ s.reverseDependencies.values.flatten

def detectCircularDependencies (order : SetOrder) (s : AgentRegistry Plugin) :
    Option (List (List String)) :=
  (CycleSearch.search (fun node => order.order (s.dependents node)) (s.nodes.length + 1)
    s.registry.keys).map (·.cycles)

def cyclesText (cycles : List (List String)) : String :=
  let shown (parts : List String) : String := "[" ++ ", ".intercalate parts ++ "]"
  shown (cycles.map fun cycle => shown (cycle.map fun name => "'" ++ name ++ "'"))

def validateRegistry (order : SetOrder) : Action Plugin Unit := do
  match detectCircularDependencies order (← get) with
  | some [] => return ()
  | some circular =>
    throw (.dependencyConflictError ("Circular dependencies: " ++ cyclesText circular))
  | none => throw (.builtin ⟨.runtimeError, "maximum recursion depth exceeded"⟩)

inductive Call (Plugin : Type) where
  | register (cls : AgentClass) (pluginMeta : Option Plugin) (override : Bool)
  | unregister (agentType : String)

def Call.perform (specs : PluginSpecs Plugin) (order : SetOrder) : Call Plugin → Action Plugin Unit
  | .register cls pluginMeta override => do
    let _ ← Registry.register specs cls pluginMeta override
  | .unregister agentType => Registry.unregister order agentType

section Running

variable (specs : PluginSpecs Plugin) (order : SetOrder)

def after (s : AgentRegistry Plugin) (call : Call Plugin) : AgentRegistry Plugin :=
  (call.perform specs order s).2

abbrev run (s : AgentRegistry Plugin) (calls : List (Call Plugin)) : AgentRegistry Plugin :=
  Runs.run (after specs order) s calls

/-- The import of a module: the calls its own code makes on the registry, and how
it ends, with the objects that `dir` lists. -/
structure Import (Plugin : Type) where
  calls : List (Call Plugin)
  result : Except Error (List AgentClass)

def importModule (module : Import Plugin) : Action Plugin (List AgentClass) := do
  set (run specs order (← get) module.calls)
  lift module.result

def registerModule : List AgentClass → Action Plugin Unit
  | [] => return ()
  | obj :: rest => do
    if obj.isClass && obj.isAgent && !obj.isBase then
      let _ ← register specs obj none false
      registerModule rest
    else
      registerModule rest

def loadModule (module : Import Plugin) : Action Plugin Unit := do
  let objs ← importModule specs order module
  registerModule specs objs

def Error.isImportError : Error → Bool
  | .builtin e => e.cls = .importError
  | _ => false

def loadBuiltinAgents (builtin : Import Plugin) : Action Plugin Unit :=
  tryCatch (loadModule specs order builtin) fun e =>
    if e.isImportError then return () else throw e

def discoverPlugins : List (Import Plugin) → Action Plugin Unit
  | [] => return ()
  | plugin :: rest => do
    tryCatch (loadModule specs order plugin) fun _ => return ()
    discoverPlugins rest

def initializeRegistry (builtin : Import Plugin) (plugins : List (Import Plugin)) :
    Action Plugin Unit := do
  if (← get).initialized then
    return ()
  else
    loadBuiltinAgents specs order builtin
    discoverPlugins specs order plugins
    validateRegistry order
    modify fun s => { s with initialized := true }

end Running

end Operations

end KuvaAI.Registry
