import KuvaAI.Lib.Effect
import KuvaAI.Lib.Runs
import KuvaAI.Workflow.Parser

/-! The loader of the workflow parser, its cache by path, and the watcher that
deploys a pipeline when its file changes. YAML, templates, the check for circular
imports and the builder are outside: each is a function of what it is given. -/
namespace KuvaAI.Workflow
open Python Effect

structure DAGParser (Path Parsed Raw Config Graph : Type) where
  resolve : String → Path
  compose : String → Except PipelineError Parsed
  detectCircularImports : Parsed → Path → Except PipelineError Unit
  renderTemplates : String → Except PipelineError Raw
  validateConfig : Raw → Except PipelineError Config
  buildDag : Config → Except PipelineError Graph
  analyzeDag : Graph → Except PipelineError Unit

structure FileEvent where
  srcPath : String
  isDirectory : Bool

structure Runtime (Path Graph : Type) where
  disk : Path → Option String
  cache : Dict Path String
  deployed : List Graph

inductive GitAction (Path : Type) where
  | write (path : Path) (content : String)
  | event (e : FileEvent)

section Definitions

variable {Path Parsed Raw Config Graph : Type} [DecidableEq Path]

abbrev Watcher (Path Graph : Type) := Effect (Runtime Path Graph) PipelineError

def liftPipeline {α : Type} : Except PipelineError α → Watcher Path Graph α
  | .ok a => pure a
  | .error e => throw e

variable (parser : DAGParser Path Parsed Raw Config Graph)

def readFile (path : Path) : Watcher Path Graph String := do
  match (← get).disk path with
  | some content => return content
  | none => throw (.builtin ⟨.oSError, "No such file or directory"⟩)

/-- The checks that a content passes before it is cached. -/
def DAGParser.admits (content : String) (path : Path) : Except PipelineError Unit := do
  let parsed ← parser.compose content
  parser.detectCircularImports parsed path

def loadContent (source : String) : Watcher Path Graph String := do
  let path := parser.resolve source
  match (← get).cache.get? path with
  | some content => return content
  | none => do
    let content ← readFile path
    liftPipeline (parser.admits content path)
    modify fun r => { r with cache := r.cache.set path content }
    return content

/-- The graph of a content: the steps of `parse` after loading. -/
def DAGParser.built (content : String) : Except PipelineError Graph := do
  let rawData ← parser.renderTemplates content
  let config ← parser.validateConfig rawData
  let dag ← parser.buildDag config
  parser.analyzeDag dag
  return dag

def parse (source : String) : Watcher Path Graph Graph :=
  tryCatch
    (do
      let content ← loadContent parser source
      liftPipeline (parser.built content))
    fun e => throw (.invalidPipelineError ("YAML parsing error: " ++ e.text))

def deployToRuntime (dag : Graph) : Watcher Path Graph Unit :=
  modify fun r => { r with deployed := r.deployed ++ [dag] }

def FileEvent.isPipeline (e : FileEvent) : Bool :=
  !e.isDirectory && e.srcPath.endsWith ".yaml"

def gitopsHandler (e : FileEvent) : Watcher Path Graph Unit :=
  if e.isPipeline then
    tryCatch
      (do
        let dag ← parse parser e.srcPath
        deployToRuntime dag)
      fun
        | .invalidPipelineError _ => return ()
        | e => throw e
  else
    return ()

def GitAction.perform (r : Runtime Path Graph) : GitAction Path → Runtime Path Graph
  | .write path content => { r with disk := fun p => if p = path then some content else r.disk p }
  | .event e => (gitopsHandler parser e r).2

end Definitions

section Deployment

variable {Path Parsed Raw Config Graph : Type} [DecidableEq Path]
  (parser : DAGParser Path Parsed Raw Config Graph)

def loaded (r : Runtime Path Graph) (path : Path) : Option String :=
  match r.cache.get? path with
  | some content => some content
  | none => (r.disk path).filter fun content => (parser.admits content path).isOk

omit [DecidableEq Path] in
@[simp] theorem wp_liftPipeline {α : Type} (x : Except PipelineError α)
    (post : α → Runtime Path Graph → Prop) (exn : PipelineError → Runtime Path Graph → Prop)
    (r : Runtime Path Graph) : wp (liftPipeline x) post exn r ↔
      match x with
      | .ok a => post a r
      | .error e => exn e r := by
  cases x <;> rfl

theorem loaded_cached {r : Runtime Path Graph} {path : Path} {content : String}
    (cached : r.cache.get? path = some content) : loaded parser r path = some content := by
  rw [loaded, cached]

theorem loaded_uncached {r : Runtime Path Graph} {path : Path} (uncached : r.cache.get? path = none) :
    loaded parser r path =
      (r.disk path).filter fun content => (parser.admits content path).isOk := by
  rw [loaded, uncached]

theorem loadContent_spec (r : Runtime Path Graph) (source : String) :
    wp (loadContent parser source)
      (fun content t => loaded parser r (parser.resolve source) = some content ∧
        t.deployed = r.deployed)
      (fun _ t => loaded parser r (parser.resolve source) = none ∧ t.deployed = r.deployed) r := by
  rw [loadContent, wp_bind, wp_get]
  cases cached : r.cache.get? (parser.resolve source) with
  | some content => exact ⟨loaded_cached parser cached, rfl⟩
  | none =>
    rw [loaded_uncached parser cached]
    simp only [wp_bind, readFile, wp_get]
    cases r.disk (parser.resolve source) with
    | none => exact ⟨rfl, rfl⟩
    | some content =>
      simp only [wp_pure]
      cases admitted : parser.admits content (parser.resolve source) with
      | ok u => exact ⟨by simp [admitted, Except.isOk, Except.toBool], rfl⟩
      | error e => exact ⟨by simp [admitted, Except.isOk, Except.toBool], rfl⟩

def deploys (r : Runtime Path Graph) (e : FileEvent) : Option Graph :=
  if e.isPipeline then
    (loaded parser r (parser.resolve e.srcPath)).bind fun content => (parser.built content).toOption
  else
    none

theorem deploys_iff (r : Runtime Path Graph) (e : FileEvent) (dag : Graph) :
    (deploys parser r e).toList = [dag] ↔ e.isPipeline ∧ ∃ content,
      loaded parser r (parser.resolve e.srcPath) = some content ∧ parser.built content = .ok dag := by
  rw [deploys]
  by_cases isPipeline : e.isPipeline
  · rw [if_pos isPipeline]
    cases loaded parser r (parser.resolve e.srcPath) with
    | none => simp
    | some content => cases made : parser.built content <;> simp [isPipeline, made, Except.toOption]
  · simp [isPipeline]

theorem gitopsHandler_deployed (r : Runtime Path Graph) (e : FileEvent) :
    (gitopsHandler parser e r).2.deployed = r.deployed ++ (deploys parser r e).toList := by
  rw [← wp_state r (gitopsHandler parser e)
    (fun t => t.deployed = r.deployed ++ (deploys parser r e).toList), gitopsHandler, deploys]
  by_cases isPipeline : e.isPipeline
  · rw [if_pos isPipeline, if_pos isPipeline]
    simp only [parse, wp_tryCatch, wp_bind]
    apply wp_mono (loadContent_spec parser r e.srcPath)
    · rintro content t ⟨isLoaded, same⟩
      rw [wp_liftPipeline, isLoaded]
      cases made : parser.built content with
      | ok dag =>
        change t.deployed ++ [dag] = _
        simp [same, made, Except.toOption]
      | error err =>
        change t.deployed = _
        simp [same, made, Except.toOption]
    · rintro err t ⟨missing, same⟩
      change t.deployed = _
      simp [same, missing]
  · rw [if_neg isPipeline, if_neg isPipeline]
    exact (List.append_nil _).symm

/-- An event deploys nothing but the graph of the file's present content. -/
def DeploysCurrent (r : Runtime Path Graph) : GitAction Path → Prop
  | .write _ _ => True
  | .event e => ∀ dag, (gitopsHandler parser e r).2.deployed = r.deployed ++ [dag] →
    ∃ content, r.disk (parser.resolve e.srcPath) = some content ∧ parser.built content = .ok dag

/-- At an event on a file whose content is in the cache, that content builds no
graph or the same one as the file's present content. -/
def CacheCurrent (r : Runtime Path Graph) : GitAction Path → Prop
  | .write _ _ => True
  | .event e => e.isPipeline → ∀ content dag,
    r.cache.get? (parser.resolve e.srcPath) = some content → parser.built content = .ok dag →
      ∃ current, r.disk (parser.resolve e.srcPath) = some current ∧ parser.built current = .ok dag

theorem deploysCurrent_iff (r : Runtime Path Graph) (action : GitAction Path) :
    DeploysCurrent parser r action ↔ CacheCurrent parser r action := by
  cases action with
  | write path content => exact Iff.rfl
  | event e =>
    simp only [DeploysCurrent, CacheCurrent, gitopsHandler_deployed, List.append_cancel_left_eq,
      deploys_iff]
    constructor
    · intro current isPipeline content dag cached made
      exact current dag ⟨isPipeline, content, loaded_cached parser cached, made⟩
    · rintro current dag ⟨isPipeline, content, isLoaded, made⟩
      cases cached : r.cache.get? (parser.resolve e.srcPath) with
      | some old =>
        rw [loaded_cached parser cached] at isLoaded
        cases isLoaded
        exact current isPipeline content dag cached made
      | none =>
        rw [loaded_uncached parser cached, Option.filter_eq_some_iff] at isLoaded
        exact ⟨content, isLoaded.1, made⟩

/-- Every deployment of a run is current exactly when every event finds a cached
content that is current. -/
theorem deployments_current_iff (r : Runtime Path Graph) (actions : List (GitAction Path)) :
    Runs.Each (GitAction.perform parser) (DeploysCurrent parser) r actions ↔
      Runs.Each (GitAction.perform parser) (CacheCurrent parser) r actions :=
  Runs.each_congr (deploysCurrent_iff parser) r actions

def textParser : DAGParser String Unit String String String where
  resolve source := source
  compose _ := .ok ()
  detectCircularImports _ _ := .ok ()
  renderTemplates content := .ok content
  validateConfig raw := .ok raw
  buildDag config := .ok config
  analyzeDag _ := .ok ()

/-- The second event deploys what the file held at the first. -/
theorem rewritten_file_stale :
    ¬ Runs.Each (GitAction.perform textParser) (DeploysCurrent textParser)
      ⟨fun _ => none, Dict.empty, []⟩
      [.write "etl.yaml" "v1", .event ⟨"etl.yaml", false⟩, .write "etl.yaml" "v2",
        .event ⟨"etl.yaml", false⟩] := by
  intro current
  obtain ⟨content, found, made⟩ := current [.write "etl.yaml" "v1", .event ⟨"etl.yaml", false⟩,
    .write "etl.yaml" "v2"] (.event ⟨"etl.yaml", false⟩) (List.prefix_refl _) "v1"
    (by decide +kernel)
  have now : content = "v2" := (Option.some.inj found).symm
  subst now
  exact absurd made (by decide +kernel)

end Deployment

end KuvaAI.Workflow
