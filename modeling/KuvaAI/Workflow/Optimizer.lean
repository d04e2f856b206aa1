import KuvaAI.Workflow.Parser

/-! The parallel task optimizer: in each layer of the graph the tasks without
successors, when there are several, are moved into one group node. -/
namespace KuvaAI.Workflow
open Python

variable {V : Type} [DecidableEq V]

section Optimize

variable (topologicalGenerations : Dag V → Except Exn (List (List V))) (parallelGroup : List V → V)

/-- `optimized.nodes[n]["type"]`. -/
def nodeType (g : Dag V) (n : V) : Except Exn String :=
  match g.nodes.get? n with
  | none => .error ⟨.keyError, "node"⟩
  | some data =>
    match data.type with
    | none => .error ⟨.keyError, "'type'"⟩
    | some type => .ok type

def independentTasks (g : Dag V) : List V → Except Exn (List V)
  | [] => .ok []
  | n :: rest => do
    let type ← nodeType g n
    let others ← independentTasks g rest
    return if type = "task" ∧ g.successors n = [] then n :: others else others

def groupData (tasks : List V) : NodeData V :=
  { NodeData.blank with type := some "parallel", tasks := some tasks }

/-- The predecessors of a task are joined to its group, and the task goes. -/
def regroup (group : V) (g : Dag V) (task : V) : Except Exn (Dag V) :=
  let joined := (g.predecessors task).foldl (fun g pred => Dag.join g pred group) g
  if joined.Node task then .ok (joined.removeNode task)
  else .error ⟨.other, "The node is not in the digraph."⟩

def optimizeGeneration (g : Dag V) (gen : List V) : Except Exn (Dag V) := do
  let tasks ← independentTasks g gen
  if 1 < tasks.length then
    tasks.foldlM (regroup (parallelGroup tasks)) (Dag.add g (parallelGroup tasks) (groupData tasks))
  else
    return g

/-- `parallelGroup` is the name of a group, made from the hash of its tasks. -/
def optimize (dag : Dag V) : Except Exn (Dag V) := do
  let generations ← topologicalGenerations dag
  generations.foldlM (optimizeGeneration parallelGroup) dag

end Optimize

section Regrouping

theorem join_foldl {group : V} (preds : List V) (g : Dag V) (nodes : ∀ u ∈ preds, g.Node u)
    (isNode : g.Node group) :
    (preds.foldl (fun g pred => Dag.join g pred group) g).nodes = g.nodes ∧
      ∀ u w, (preds.foldl (fun g pred => Dag.join g pred group) g).Edge u w ↔
        w = group ∧ u ∈ preds ∨ g.Edge u w := by
  induction preds generalizing g with
  | nil => exact ⟨rfl, fun u w => by simp⟩
  | cons pred rest ih =>
    have same : (Dag.join g pred group).nodes = g.nodes :=
      DiGraph.nodes_addEdge _ _ (nodes pred List.mem_cons_self) isNode
    have nodesNext : ∀ u ∈ rest, (Dag.join g pred group).Node u := by
      intro u mem
      rw [DiGraph.Node, same]
      exact nodes u (List.mem_cons_of_mem _ mem)
    have isNodeNext : (Dag.join g pred group).Node group := by
      rw [DiGraph.Node, same]
      exact isNode
    obtain ⟨kept, edges⟩ := ih (Dag.join g pred group) nodesNext isNodeNext
    refine ⟨kept.trans same, fun u w => ?_⟩
    rw [List.foldl_cons, edges, Dag.join, DiGraph.edge_addEdge, List.mem_cons]
    tauto

structure Moved (group : V) (front : List V) (before g : Dag V) : Prop where
  nodes : ∀ x, g.nodes.get? x = if x ∈ front then none else before.nodes.get? x
  edges : ∀ u w, g.Edge u w ↔
    before.Edge u w ∧ w ∉ front ∨ w = group ∧ ∃ v ∈ front, before.Edge u v

structure Movable (group : V) (g : Dag V) (task : V) : Prop where
  node : g.Node task
  sink : ∀ w, ¬ g.Edge task w
  other : task ≠ group

theorem node_iff (g : Dag V) (v : V) : g.Node v ↔ ∃ data, g.nodes.get? v = some data :=
  g.nodes.mem_keys_iff v

theorem regroup_moves {group task : V} {front : List V} {before g : Dag V}
    (isGroup : before.Node group) (fresh : group ∉ front) (moved : Moved group front before g)
    (movable : Movable group before task) (next : task ∉ front) :
    ∃ h, regroup group g task = .ok h ∧ Moved group (front ++ [task]) before h := by
  have stays : ∀ x, x ∉ front → before.Node x → g.Node x := by
    intro x off node
    rw [node_iff] at node ⊢
    rw [moved.nodes, if_neg off]
    exact node
  have preds : ∀ u, u ∈ g.predecessors task ↔ before.Edge u task := by
    intro u
    rw [g.mem_predecessors, moved.edges]
    constructor
    · rintro (⟨edge, _⟩ | ⟨same, _⟩)
      · exact edge
      · exact absurd same movable.other
    · exact fun edge => .inl ⟨edge, next⟩
  obtain ⟨same, edges⟩ := join_foldl (g.predecessors task) g
    (fun u mem => (g.closed u task ((g.mem_predecessors u task).mp mem)).1)
    (stays group fresh isGroup)
  have here : ((g.predecessors task).foldl (fun g pred => Dag.join g pred group) g).Node task := by
    rw [DiGraph.Node, same]
    exact stays task next movable.node
  refine ⟨_, if_pos here, ?_, ?_⟩
  · intro x
    rw [DiGraph.removeNode, Dict.get?_erase, same, moved.nodes]
    by_cases isTask : x = task <;> simp [isTask]
  · intro u w
    rw [DiGraph.edge_removeNode, edges, preds, moved.edges]
    constructor
    · rintro ⟨⟨rfl, edge⟩ | ⟨edge, off⟩ | ⟨rfl, v, mem, edge⟩, _, other⟩
      · exact .inr ⟨rfl, task, by simp, edge⟩
      · exact .inl ⟨edge, by simp [off, other]⟩
      · exact .inr ⟨rfl, v, List.mem_append_left _ mem, edge⟩
    · rintro (⟨edge, off⟩ | ⟨rfl, v, mem, edge⟩)
      · have apart : w ∉ front ∧ w ≠ task := by simpa using off
        exact ⟨.inr (.inl ⟨edge, apart.1⟩), fun same => movable.sink w (same ▸ edge), apart.2⟩
      · refine ⟨?_, fun same => movable.sink v (same ▸ edge), movable.other.symm⟩
        rcases List.mem_append.mp mem with old | new
        · exact .inr (.inr ⟨rfl, v, old, edge⟩)
        · exact .inl ⟨rfl, List.mem_singleton.mp new ▸ edge⟩

theorem regroup_all {group : V} {front : List V} {before g : Dag V} (isGroup : before.Node group)
    (fresh : group ∉ front) (moved : Moved group front before g) (tasks : List V)
    (movable : ∀ task ∈ tasks, Movable group before task) (nodup : (front ++ tasks).Nodup) :
    ∃ h, tasks.foldlM (regroup group) g = .ok h ∧ Moved group (front ++ tasks) before h := by
  induction tasks generalizing front g with
  | nil => exact ⟨g, rfl, (List.append_nil front).symm ▸ moved⟩
  | cons task rest ih =>
    have ofTask := movable task List.mem_cons_self
    have next : task ∉ front := by
      intro mem
      exact (List.nodup_append.mp nodup).2.2 task mem task List.mem_cons_self rfl
    obtain ⟨mid, ran, movedMid⟩ := regroup_moves isGroup fresh moved ofTask next
    have freshMid : group ∉ front ++ [task] := by simp [fresh, ofTask.other.symm]
    rw [List.append_cons] at nodup ⊢
    obtain ⟨h, rested, movedAll⟩ := ih freshMid movedMid
      (fun t mem => movable t (List.mem_cons_of_mem _ mem)) nodup
    exact ⟨h, by rw [List.foldlM_cons, ran]; exact rested, movedAll⟩

end Regrouping

end KuvaAI.Workflow
