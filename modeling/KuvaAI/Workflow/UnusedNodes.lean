import KuvaAI.Workflow.Parser

/-! The check for unused nodes, which comes after the one for cycles. Whatever is left by
that one has nothing unused in it. -/
namespace KuvaAI.Workflow
open Relation

section Reaching

variable {dag : Dag String}

theorem within_nodes : ∀ v ∈ dag.nodes.keys.toFinset, ∀ next ∈ dag.successors v,
    next ∈ dag.nodes.keys.toFinset := by
  intro v _ next edge
  exact List.mem_toFinset.mpr (dag.closed v next ((dag.mem_successors v next).mp edge)).2

theorem mem_descendants {source v : String} (node : dag.Node source)
    (path : ReflTransGen dag.Edge source v) (other : v ≠ source) : v ∈ descendants dag source := by
  have fuel : (CycleSearch.unvisited dag.nodes.keys.toFinset .init).card <
      dag.nodes.keys.length + 1 :=
    Nat.lt_succ_of_le ((Finset.card_le_card Finset.sdiff_subset).trans (List.toFinset_card_le _))
  obtain ⟨s, searched, _⟩ := CycleSearch.dfs_returns within_nodes _ source .init
    (List.mem_toFinset.mpr node) fuel
  have same : CycleSearch.Edge dag.successors = dag.Edge := by
    funext a b
    exact propext (dag.mem_successors a b)
  have visited := CycleSearch.dfs_reaches searched (same ▸ path)
  rw [descendants, searched]
  exact List.mem_filter.mpr ⟨visited, decide_eq_true other⟩

/-- Every node of an acyclic graph has no predecessor or descends from one without. -/
theorem rooted (acyclic : Acyclic dag.Edge) {n : String} (node : dag.Node n) :
    ∃ root, dag.Node root ∧ dag.predecessors root = [] ∧ (n = root ∨ n ∈ descendants dag root) := by
  obtain ⟨root, listed, first, path⟩ := acyclic.exists_source dag.nodes.keys.toFinset
    (fun a b edge => List.mem_toFinset.mpr (dag.closed a b edge).1) (List.mem_toFinset.mpr node)
  have isNode : dag.Node root := List.mem_toFinset.mp listed
  refine ⟨root, isNode, ?_, ?_⟩
  · exact List.eq_nil_iff_forall_not_mem.mpr fun a mem => first a ((dag.mem_predecessors a root).mp mem)
  · by_cases same : n = root
    · exact .inl same
    · exact .inr (mem_descendants isNode path same)

theorem detectUnusedNodes_ok (order : Python.SetOrder) (acyclic : Acyclic dag.Edge) :
    detectUnusedNodes order dag = .ok () := by
  unfold detectUnusedNodes
  rw [if_neg]
  rw [not_not, List.filter_eq_nil_iff]
  intro n node unused
  obtain ⟨unreached, notRoot⟩ := of_decide_eq_true unused
  obtain ⟨root, isNode, first, same | below⟩ := rooted acyclic node
  · exact notRoot (List.mem_filter.mpr ⟨node, decide_eq_true (same ▸ first)⟩)
  · have isRoot : root ∈ dag.nodes.keys.filter fun n => dag.predecessors n = [] :=
      List.mem_filter.mpr ⟨isNode, decide_eq_true first⟩
    exact unreached (List.mem_flatMap.mpr ⟨root, isRoot, below⟩)

end Reaching

theorem analyzeDag_eq (order : Python.SetOrder) (dag : Dag String) : analyzeDag order dag =
    if dag.isDirectedAcyclic then optimizeEdgeOrdering dag
    else .error (.invalidPipelineError "Pipeline contains cycles") := by
  unfold analyzeDag
  split
  · rename_i checked
    rw [detectUnusedNodes_ok order (dag.isDirectedAcyclic_iff.mp checked)]
    rfl
  · rfl

/-- The check rejects no acyclic graph: every node is a root or descends from one. -/
theorem no_unused_nodes (order : Python.SetOrder) (dag : Dag String) (acyclic : Acyclic dag.Edge) :
    detectUnusedNodes order dag = .ok () ∧
    ∀ n, dag.Node n → ∃ root, dag.Node root ∧ dag.predecessors root = [] ∧
      (n = root ∨ n ∈ descendants dag root) :=
  ⟨detectUnusedNodes_ok order acyclic, fun _ node => rooted acyclic node⟩

def reportDag : Dag String :=
  Dag.joinAs "explicit" (Dag.joinAs "explicit" (Dag.add .empty "archive" .blank) "load" "report")
    "load" "plot"

theorem reportDag_complete : Acyclic reportDag.Edge ∧
    detectUnusedNodes .asListed reportDag = .ok () := by
  have acyclic : Acyclic reportDag.Edge := reportDag.isDirectedAcyclic_iff.mp (by decide +kernel)
  exact ⟨acyclic, (no_unused_nodes .asListed reportDag acyclic).1⟩

end KuvaAI.Workflow
