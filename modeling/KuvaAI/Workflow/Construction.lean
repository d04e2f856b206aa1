import KuvaAI.Workflow.Parser

/-! Which configurations the pipeline builder accepts. The execution group of the
first node already reads a variable that does not exist, so it accepts none. -/
namespace KuvaAI.Workflow
open Python

def PipelineConfig.DependsOn (config : PipelineConfig) (dep nodeId : String) : Prop :=
  ∃ nodeCfg, config.nodes.get? nodeId = some nodeCfg ∧ dep ∈ nodeCfg.dependsOn.deps

structure WellFormed (config : PipelineConfig) : Prop where
  declared : ∀ dep nodeId, config.DependsOn dep nodeId → dep ∈ config.nodes.keys
  executors : ∀ nodeId nodeCfg, config.nodes.get? nodeId = some nodeCfg →
    ¬ (nodeCfg.type = "service" ∧ nodeCfg.executor = some "default")
  acyclic : Acyclic config.DependsOn

/-- What the builder promises of a graph it returns. -/
structure Represents (dag : Dag String) (config : PipelineConfig) : Prop where
  nodes : ∀ v, dag.Node v ↔ v ∈ config.nodes.keys
  edges : ∀ u v, dag.Edge u v ↔ config.DependsOn u v
  groups : ∀ u v, config.DependsOn u v → ∃ before group,
    (dag.nodes.get? u).bind NodeData.executionGroup = some before ∧
    (dag.nodes.get? v).bind NodeData.executionGroup = some group ∧ before < group

section Acceptance

variable (order : SetOrder)
  (topologicalGenerations : Dag String → Except Exn (List (List String)))

/-- The builder succeeds exactly on a well-formed configuration, and then returns
the graph that the configuration describes. -/
def BuildsExactly (config : PipelineConfig) : Prop :=
  ((∃ dag, construct order topologicalGenerations config = .ok dag) ↔ WellFormed config) ∧
  ∀ dag, construct order topologicalGenerations config = .ok dag → Represents dag config

theorem addConfigured_raises (dag : Dag String) (nodeId : String) (nodeCfg : NodeConfig) :
    addConfigured topologicalGenerations dag nodeId nodeCfg =
      .error (.builtin ⟨.nameError, "name 'dag' is not defined"⟩) := rfl

theorem buildDag_raises (config : PipelineConfig) :
    buildDag topologicalGenerations config =
      .error (.builtin ⟨.nameError, "name 'dag' is not defined"⟩) := by
  cases listed : config.nodes.entries with
  | nil => exact absurd listed config.minItems
  | cons entry rest =>
    simp only [buildDag, listed, List.foldlM_cons, addConfigured_raises, bind_error]

theorem construct_raises (config : PipelineConfig) (dag : Dag String) :
    construct order topologicalGenerations config ≠ .ok dag := by
  rw [construct, buildDag_raises]
  cases validateDagRules order config with
  | error e => exact nofun
  | ok u => exact nofun

theorem buildsExactly_iff (config : PipelineConfig) :
    BuildsExactly order topologicalGenerations config ↔ ¬ WellFormed config := by
  constructor
  · intro exactly wellFormed
    obtain ⟨dag, built⟩ := exactly.1.mpr wellFormed
    exact construct_raises order topologicalGenerations config dag built
  · intro malformed
    refine ⟨iff_of_false ?_ malformed, ?_⟩
    · rintro ⟨dag, built⟩
      exact construct_raises order topologicalGenerations config dag built
    · intro dag built
      exact absurd built (construct_raises order topologicalGenerations config dag)

end Acceptance

def taskConfig (dependsOn : List String) : NodeConfig :=
  ⟨"task", some "default", .names dependsOn, Dict.empty, by decide⟩

def loadAndClean : PipelineConfig :=
  ⟨(Dict.empty.set "data_load" (taskConfig [])).set "data_clean" (taskConfig ["data_load"]),
    by decide⟩

theorem loadAndClean_cases {nodeId : String} {nodeCfg : NodeConfig}
    (found : loadAndClean.nodes.get? nodeId = some nodeCfg) :
    nodeId = "data_clean" ∧ nodeCfg = taskConfig ["data_load"] ∨
      nodeId = "data_load" ∧ nodeCfg = taskConfig [] := by
  rw [loadAndClean, Dict.get?_set, Dict.get?_set, Dict.get?_empty] at found
  split at found
  · exact .inl ⟨‹_›, (Option.some.inj found).symm⟩
  · split at found
    · exact .inr ⟨‹_›, (Option.some.inj found).symm⟩
    · cases found

theorem loadAndClean_dependsOn {dep nodeId : String} (depends : loadAndClean.DependsOn dep nodeId) :
    dep = "data_load" ∧ nodeId = "data_clean" := by
  obtain ⟨nodeCfg, found, member⟩ := depends
  rcases loadAndClean_cases found with ⟨rfl, rfl⟩ | ⟨_, rfl⟩
  · exact ⟨List.mem_singleton.mp member, rfl⟩
  · exact (List.not_mem_nil member).elim

theorem loadAndClean_wellFormed : WellFormed loadAndClean where
  declared := by
    intro dep nodeId depends
    rw [(loadAndClean_dependsOn depends).1]
    decide +kernel
  executors := by
    intro nodeId nodeCfg found
    rcases loadAndClean_cases found with ⟨_, rfl⟩ | ⟨_, rfl⟩ <;> decide +kernel
  acyclic := by
    apply Acyclic.of_rank fun v => if v = "data_clean" then 1 else 0
    intro a b depends
    obtain ⟨rfl, rfl⟩ := loadAndClean_dependsOn depends
    decide +kernel

theorem loadAndClean_not_built :
    ¬ BuildsExactly .asListed (fun _ => .ok [["data_load"], ["data_clean"]]) loadAndClean := by
  intro exactly
  obtain ⟨dag, built⟩ := exactly.1.mpr loadAndClean_wellFormed
  exact construct_raises _ _ loadAndClean dag built

end KuvaAI.Workflow
