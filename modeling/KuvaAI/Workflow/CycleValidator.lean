import KuvaAI.Lib.DiGraph
import KuvaAI.Python.Value
import Mathlib.Data.String.Basic

/-! The validators of validator.py. What `inspect` and `ast` find in a target is part
of the target, and modules come from `import_module`. The module never imports
`threading`, so that a caching validator is only built once a host binds the name;
the validator is taken as its constructor leaves it then. -/
namespace KuvaAI.Validator
open Python

abbrev Graph := DiGraph String Unit Unit

namespace Graph

def addNode (g : Graph) (v : String) : Graph := DiGraph.addNode (fun _ new => new) g v ()

def addEdge (g : Graph) (u v : String) : Graph := DiGraph.addEdge () (fun _ => ()) g u v

theorem edge_addEdge (g : Graph) (u v a b : String) :
    (addEdge g u v).Edge a b ↔ a = u ∧ b = v ∨ g.Edge a b :=
  DiGraph.edge_addEdge () (fun _ => ()) g u v a b

theorem node_addEdge (g : Graph) {u v a : String} (node : g.Node a) : (addEdge g u v).Node a :=
  (DiGraph.node_addEdge () (fun _ => ()) g u v a).mpr (.inr (.inr node))

theorem node_addNode (g : Graph) (v a : String) : (addNode g v).Node a ↔ a = v ∨ g.Node a :=
  DiGraph.node_addNode (fun _ new => new) g v a ()

end Graph

/-- `list(nx.simple_cycles(graph))`: some cycle of every graph that has one. -/
structure CycleLister where
  simpleCycles : Graph → List (List String)
  simpleCycles_eq_nil : ∀ g, simpleCycles g = [] ↔ Acyclic g.Edge

def searchedCycles (g : Graph) : List (List String) :=
  match CycleSearch.search g.successors (g.nodes.keys.length + 1) g.nodes.keys with
  | some s => s.cycles.map List.dropLast
  | none => []

def searchLister : CycleLister where
  simpleCycles := searchedCycles
  simpleCycles_eq_nil g := by
    obtain ⟨s, searched, none⟩ := g.search_cycles
    rw [searchedCycles, searched, List.map_eq_nil_iff, none]

inductive Raised where
  | cycleValidationError (cyclePath : List String) (context : String)
  | builtin (e : Exn)
  deriving DecidableEq, Repr

/-! ### Targets -/

/-- An `ast.Import` with its names, or an `ast.ImportFrom` with its module. -/
inductive ImportNode where
  | names (aliases : List String)
  | source (module : Option String)

/-- The import nodes in the order of `ast.walk`, or what reading the source raised. -/
structure Module where
  name : String
  imports : Except Exn (List ImportNode)

structure Method where
  name : String
  attributeCalls : Except Exn (List String)

inductive PyClass where
  | mk (name module qualname : String) (bases : List PyClass) (functions : List Method)

/-- Anything that a name is bound to. Only some objects have a module and a
qualified name; the calls are those of plain names in its source. -/
structure Callable where
  identifier : Except Exn String
  nameCalls : Except Exn (List String)

structure Function where
  name : String
  module : String
  qualname : String
  nameCalls : Except Exn (List String)

inductive Target where
  | module (m : Module)
  | cls (c : PyClass)
  | function (f : Function)
  | text (s : String)
  | other (id : Nat) (type : String)

/-! ### The graphs of modules, classes and functions -/

/-- `path.split('.')[0]`. -/
def firstPart (path : String) : String := String.ofList (path.toList.takeWhile (· ≠ '.'))

def ImportNode.paths : ImportNode → List String
  | .names aliases => aliases.map firstPart
  | .source none => []
  | .source (some module) => [firstPart module].filter (· ≠ "")

def moduleImports (nodes : List ImportNode) : List String := nodes.flatMap ImportNode.paths

def buildModuleGraph (m : Module) (graph : Graph) : Except Exn Graph :=
  match m.imports with
  | .error e => .error e
  | .ok nodes => .ok ((moduleImports nodes).foldl (fun g path => Graph.addEdge g m.name path) graph)

def PyClass.name : PyClass → String
  | .mk name _ _ _ _ => name

def PyClass.identifier : PyClass → String
  | .mk _ module qualname _ _ => module ++ "." ++ qualname

/-- A source that cannot be read is only warned of. -/
def analyzeMethodCalls (parent : String) (graph : Graph) (func : Method) : Graph :=
  match func.attributeCalls with
  | .error _ => graph
  | .ok callees =>
    callees.foldl (fun g callee => Graph.addEdge g (parent ++ "." ++ func.name) (parent ++ "." ++ callee))
      graph

mutual

def buildClassHierarchy : PyClass → Graph → Graph
  | .mk name _ _ bases functions, graph =>
    functions.foldl (analyzeMethodCalls name) (buildBases name bases (Graph.addNode graph name))

def buildBases (name : String) : List PyClass → Graph → Graph
  | [], graph => graph
  | base :: rest, graph =>
    buildBases name rest (buildClassHierarchy base (Graph.addEdge graph name base.name))

end

def classGraph (c : PyClass) : Graph := buildClassHierarchy c DiGraph.empty

def Function.identifier (f : Function) : String := f.module ++ "." ++ f.qualname

def Function.callable (f : Function) : Callable := ⟨.ok f.identifier, f.nameCalls⟩

/-- The calls of one function. A callee that has no identifier raises, which ends
the walk with a warning. -/
def walkCalls (namespace_ : Dict String Callable)
    (visit : Callable → Graph → Option (Except Exn Graph)) (funcId : String) :
    List String → Graph → Option Graph
  | [], graph => some graph
  | callee :: rest, graph =>
    let graph := Graph.addEdge graph funcId callee
    match namespace_.get? callee with
    | none => walkCalls namespace_ visit funcId rest graph
    | some object =>
      match visit object graph with
      | none => none
      | some (.error _) => some graph
      | some (.ok graph) => walkCalls namespace_ visit funcId rest graph

/-- `_build_call_graph` with the globals of the validator's own module. The fuel
bounds the depth of the recursion. -/
def buildCallGraph (namespace_ : Dict String Callable) :
    Nat → Callable → Graph → Option (Except Exn Graph)
  | 0, _, _ => none
  | fuel + 1, func, graph =>
    match func.identifier with
    | .error e => some (.error e)
    | .ok funcId =>
      if graph.Node funcId then some (.ok graph)
      else
        let graph := Graph.addNode graph funcId
        match func.nameCalls with
        | .error _ => some (.ok graph)
        | .ok callees =>
          (walkCalls namespace_ (buildCallGraph namespace_ fuel) funcId callees graph).map .ok

def callGraph (namespace_ : Dict String Callable) (f : Function) : Option (Except Exn Graph) :=
  buildCallGraph namespace_ (namespace_.values.length + 2) f.callable DiGraph.empty

/-! ### The plain validator -/

structure Surroundings where
  lister : CycleLister
  /-- The globals of the validator's module. -/
  namespace_ : Dict String Callable
  importModule : String → Except Exn Module
  /-- `_load_dag`, which the file leaves to be written: it returns an empty graph. -/
  loadDag : String → Except Exn Graph := fun _ => .ok DiGraph.empty

structure CycleValidator where
  cache : Dict String Bool
  moduleGraph : Graph
  currentAnalysis : Option String

def CycleValidator.init : CycleValidator := ⟨Dict.empty, DiGraph.empty, none⟩

abbrev Outcome := Except Raised Bool

def simplifyCycle (cycle : List String) : List String :=
  match cycle.min? with
  | none => cycle
  | some least => cycle.rotate (cycle.idxOf least)

def checkCycles (lister : CycleLister) (graph : Graph) (context : String) : Outcome :=
  match lister.simpleCycles graph with
  | [] => .ok true
  | cycle :: _ => .error (.cycleValidationError (simplifyCycle cycle) context)

section Validate

variable (env : Surroundings)

def validateModule (m : Module) (v : CycleValidator) : Outcome × CycleValidator :=
  match v.cache.get? m.name with
  | some result => (.ok result, v)
  | none =>
    match buildModuleGraph m v.moduleGraph with
    | .error e => (.error (.builtin e), v)
    | .ok graph =>
      match checkCycles env.lister graph ("Module: " ++ m.name) with
      | .error e => (.error e, { v with moduleGraph := graph })
      | .ok _ => (.ok true, { v with moduleGraph := graph, cache := v.cache.set m.name true })

def validateClass (c : PyClass) : Outcome :=
  checkCycles env.lister (classGraph c) ("Class: " ++ c.name)

/-- The graph is complete with the fuel that `callGraph` gives. -/
def validateFunction (f : Function) : Outcome :=
  match callGraph env.namespace_ f with
  | none => .error (.builtin ⟨.other, "RecursionError"⟩)
  | some (.error e) => .error (.builtin e)
  | some (.ok graph) => checkCycles env.lister graph ("Function: " ++ f.name)

/-- `str(Path(s))`: empty parts and dots go; two leading slashes stay, and no more. -/
def pathText (s : String) : List Char :=
  let parts := (s.toList.splitOn '/').filter (fun part => part ≠ [] ∧ part ≠ ['.'])
  let slashes := (s.toList.takeWhile (· = '/')).length
  let root := if slashes = 2 then ['/', '/'] else if slashes = 0 then [] else ['/']
  if root = [] ∧ parts = [] then ['.'] else root ++ ['/'].intercalate parts

/-- `str(path).replace('/', '.').rstrip('.py')`, which takes away any of the three
characters at the end. -/
def moduleOfPath (path : String) : String :=
  let dotted := (pathText path).map (fun c => if c = '/' then '.' else c)
  String.ofList (dotted.reverse.dropWhile (· ∈ ['.', 'p', 'y'])).reverse

def importTwice (path : String) : Except Exn Module := do
  let spec ← env.importModule (moduleOfPath path)
  env.importModule spec.name

def validateFile (path : String) (v : CycleValidator) : Outcome × CycleValidator :=
  match importTwice env path with
  | .error e => (.error (.builtin e), v)
  | .ok m => validateModule env m v

/-- `dag_identifier in self._current_analysis`, which asks a string, or `None`. -/
def underAnalysis (identifier : String) : Option String → Except Exn Bool
  | none => .error ⟨.typeError, "argument of type 'NoneType' is not iterable"⟩
  | some current => .ok (decide (identifier.toList <:+: current.toList))

def validateDag (identifier : String) (v : CycleValidator) : Outcome × CycleValidator :=
  match underAnalysis identifier v.currentAnalysis with
  | .error e => (.error (.builtin e), v)
  | .ok true =>
    (.error (.cycleValidationError ["..."] ("DAG analysis recursion detected: " ++ identifier)), v)
  | .ok false =>
    match env.loadDag identifier with
    | .error e => (.error (.builtin e), { v with currentAnalysis := some identifier })
    | .ok dag =>
      let outcome := if dag.isDirectedAcyclic then .ok true
        else checkCycles env.lister dag ("DAG: " ++ identifier)
      (outcome, { v with currentAnalysis := none })

def isPythonFile (s : String) : Bool := ".py".toList.isSuffixOf s.toList

def validate (target : Target) (v : CycleValidator) : Outcome × CycleValidator :=
  match target with
  | .module m => validateModule env m v
  | .cls c => (validateClass env c, v)
  | .function f => (validateFunction env f, v)
  | .text s => if isPythonFile s then validateFile env s v else validateDag env s v
  | .other _ type =>
    (.error (.builtin ⟨.valueError, "Unsupported validation target: " ++ type⟩), v)

/-! ### The caching validator -/

structure PerformanceOptimizedValidator where
  base : CycleValidator
  analysisCache : Dict String Bool

def PerformanceOptimizedValidator.init : PerformanceOptimizedValidator := ⟨.init, Dict.empty⟩

def targetIdentifier : Target → String
  | .text s => s
  | .module m => m.name
  | .cls c => c.identifier
  | .function f => f.identifier
  | .other id _ => toString id

def validateCached (target : Target) (v : PerformanceOptimizedValidator) :
    Outcome × PerformanceOptimizedValidator :=
  match v.analysisCache.get? (targetIdentifier target) with
  | some result => (.ok result, v)
  | none =>
    match validate env target v.base with
    | (.error e, base) => (.error e, { v with base })
    | (.ok result, base) =>
      (.ok result, ⟨base, v.analysisCache.set (targetIdentifier target) result⟩)

end Validate

/-! ### One specification lemma per function -/

section Specifications

variable (env : Surroundings)

theorem checkCycles_acyclic {graph : Graph} (acyclic : Acyclic graph.Edge) (context : String) :
    checkCycles env.lister graph context = .ok true := by
  rw [checkCycles, (env.lister.simpleCycles_eq_nil graph).mpr acyclic]

theorem checkCycles_cyclic {graph : Graph} (cyclic : ¬ Acyclic graph.Edge) (context : String) :
    ∃ path, checkCycles env.lister graph context = .error (.cycleValidationError path context) := by
  unfold checkCycles
  cases listed : env.lister.simpleCycles graph with
  | nil => exact absurd ((env.lister.simpleCycles_eq_nil graph).mp listed) cyclic
  | cons cycle rest => exact ⟨_, rfl⟩

variable {env}

theorem validateModule_cached {m : Module} {v : CycleValidator} {result : Bool}
    (hit : v.cache.get? m.name = some result) : validateModule env m v = (.ok result, v) := by
  simp only [validateModule, hit]

variable (env) in
theorem validateModule_cases (m : Module) (v : CycleValidator) :
    (∃ result, v.cache.get? m.name = some result ∧ validateModule env m v = (.ok result, v)) ∨
    (∃ e, v.cache.get? m.name = none ∧ buildModuleGraph m v.moduleGraph = .error e ∧
      validateModule env m v = (.error (.builtin e), v)) ∨
    ∃ graph, v.cache.get? m.name = none ∧ buildModuleGraph m v.moduleGraph = .ok graph ∧
      ((Acyclic graph.Edge ∧ validateModule env m v =
          (.ok true, { v with moduleGraph := graph, cache := v.cache.set m.name true })) ∨
        (¬ Acyclic graph.Edge ∧ ∃ path, validateModule env m v =
          (.error (.cycleValidationError path ("Module: " ++ m.name)), { v with moduleGraph := graph }))) := by
  cases hit : v.cache.get? m.name with
  | some result => exact .inl ⟨result, rfl, validateModule_cached hit⟩
  | none =>
    cases built : buildModuleGraph m v.moduleGraph with
    | error e => exact .inr (.inl ⟨e, rfl, rfl, by simp only [validateModule, hit, built]⟩)
    | ok graph =>
      refine .inr (.inr ⟨graph, rfl, rfl, ?_⟩)
      by_cases acyclic : Acyclic graph.Edge
      · exact .inl ⟨acyclic, by simp only [validateModule, hit, built, checkCycles_acyclic env acyclic]⟩
      · obtain ⟨path, raised⟩ := checkCycles_cyclic env acyclic ("Module: " ++ m.name)
        exact .inr ⟨acyclic, path, by simp only [validateModule, hit, built, raised]⟩

end Specifications

end KuvaAI.Validator
