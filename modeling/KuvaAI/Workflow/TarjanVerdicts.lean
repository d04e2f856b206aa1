import KuvaAI.Workflow.TarjanComponents

/-! What `TarjanCycleDetector` answers, and when that agrees with the acyclicity test of
`CycleValidator._validate_dag`. -/
namespace KuvaAI.TarjanCycleDetector
open Relation

section Answers

variable {V : Type} [DecidableEq V]

/-- The nodes that are mutually reachable with one of them. -/
def IsComponent (graph : Walked V) (component : Finset V) : Prop :=
  ∃ v ∈ graph.nodes, ∀ w, w ∈ component ↔ Mutual (Edge graph) v w

theorem strongconnectAll_spec (graph : Walked V) : ∃ t, strongconnectAll graph = some t ∧
    t.sccs.flatten.Nodup ∧ (∀ v, v ∈ t.sccs.flatten ↔ v ∈ graph.nodes) ∧
    ∀ scc ∈ t.sccs, ∀ v ∈ scc, ∀ w, w ∈ scc ↔ Mutual (Edge graph) v w := by
  obtain ⟨t, ran, inv, _, all⟩ := roots_spec graph.nodes (fun _ mem => mem) .init invariant_init
  refine ⟨t, ran, inv.distinct, fun v => ?_, inv.component⟩
  rw [inv.filled v]
  constructor
  · exact fun done => inv.known v done.1
  · exact fun isNode => ⟨all v isNode, by simp [inv.stack_nil]⟩

theorem toFinset_eq_iff {graph : Walked V} {scc : List V} {v : V} (mem : v ∈ scc)
    (component : ∀ v ∈ scc, ∀ w, w ∈ scc ↔ Mutual (Edge graph) v w) {other : Finset V}
    (isOther : ∀ w, w ∈ other ↔ Mutual (Edge graph) v w) : scc.toFinset = other := by
  ext w
  rw [List.mem_toFinset, component v mem w, isOther w]

/-- Every component of two nodes or more is in the answer once, and nothing else is. -/
theorem components_found (graph : Walked V) :
    ∃ sccs, findStronglyConnectedComponents graph = some sccs ∧
      (∀ scc ∈ sccs, scc.Nodup) ∧ (sccs.map List.toFinset).Nodup ∧
      ∀ component : Finset V, component ∈ sccs.map List.toFinset ↔
        IsComponent graph component ∧ 2 ≤ component.card := by
  obtain ⟨t, ran, distinct, filled, component⟩ := strongconnectAll_spec graph
  obtain ⟨each, apart⟩ := List.nodup_flatten.mp distinct
  refine ⟨t.sccs.filter fun scc => 1 < scc.length, by simp [findStronglyConnectedComponents, ran],
    fun scc mem => each scc (List.mem_of_mem_filter mem), ?_, fun c => ?_⟩
  · rw [List.Nodup, List.pairwise_map]
    refine (apart.sublist List.filter_sublist).imp_of_mem fun {a b} memA _ disjoint same => ?_
    have long : 1 < a.length := by simpa using (List.mem_filter.mp memA).2
    obtain ⟨v, rest, rfl⟩ := List.exists_cons_of_length_pos (Nat.lt_trans Nat.zero_lt_one long)
    have shared : v ∈ b.toFinset := same ▸ List.mem_toFinset.mpr List.mem_cons_self
    exact disjoint List.mem_cons_self (List.mem_toFinset.mp shared)
  · constructor
    · intro mem
      obtain ⟨scc, kept, rfl⟩ := List.mem_map.mp mem
      obtain ⟨mem, long⟩ := List.mem_filter.mp kept
      have long : 1 < scc.length := by simpa using long
      have size := List.toFinset_card_of_nodup (each scc mem)
      obtain ⟨v, rest, rfl⟩ := List.exists_cons_of_length_pos (Nat.lt_trans Nat.zero_lt_one long)
      have isNode := (filled v).mp (List.mem_flatten.mpr ⟨_, mem, List.mem_cons_self⟩)
      refine ⟨⟨v, isNode, fun w => ?_⟩, by omega⟩
      rw [List.mem_toFinset]
      exact component _ mem v List.mem_cons_self w
    · rintro ⟨⟨v, isNode, isComponent⟩, long⟩
      obtain ⟨scc, mem, memV⟩ := List.mem_flatten.mp ((filled v).mpr isNode)
      have same := toFinset_eq_iff memV (component scc mem) isComponent
      have size := List.toFinset_card_of_nodup (each scc mem)
      rw [same] at size
      exact List.mem_map.mpr ⟨scc, List.mem_filter.mpr ⟨mem, decide_eq_true (by omega)⟩, same⟩

theorem answer_nil_iff (graph : Walked V) : findStronglyConnectedComponents graph = some [] ↔
    ∀ v ∈ graph.nodes, ∀ w, Mutual (Edge graph) v w → v = w := by
  obtain ⟨t, ran, distinct, filled, component⟩ := strongconnectAll_spec graph
  obtain ⟨each, _⟩ := List.nodup_flatten.mp distinct
  have answered : findStronglyConnectedComponents graph = some [] ↔
      ∀ scc ∈ t.sccs, ¬ 1 < scc.length := by
    simp [findStronglyConnectedComponents, ran, List.filter_eq_nil_iff]
  rw [answered]
  constructor
  · intro short v isNode w both
    obtain ⟨scc, mem, memV⟩ := List.mem_flatten.mp ((filled v).mpr isNode)
    have memW := (component scc mem v memV w).mpr both
    obtain ⟨u, alone⟩ := List.length_eq_one_iff.mp
      (Nat.le_antisymm (Nat.le_of_not_lt (short scc mem)) (List.length_pos_of_mem memV))
    rw [alone, List.mem_singleton] at memV memW
    rw [memV, memW]
  · intro alone scc mem long
    have nodup := each scc mem
    obtain ⟨v, rest, rfl⟩ := List.exists_cons_of_length_pos (Nat.lt_trans Nat.zero_lt_one long)
    cases rest with
    | nil => simp at long
    | cons w rest =>
      have isNode := (filled v).mp (List.mem_flatten.mpr ⟨_, mem, List.mem_cons_self⟩)
      have both := (component _ mem v List.mem_cons_self w).mp (by simp)
      have same := alone v isNode w both
      simp [same] at nodup

end Answers

section Verdicts

variable {V D E : Type} [DecidableEq V]

def walked (graph : DiGraph V D E) : Walked V where
  nodes := graph.nodes.keys
  successors := graph.successors
  closed := fun v _ w edge => (graph.closed v w ((graph.mem_successors v w).mp edge)).2

theorem edge_walked (graph : DiGraph V D E) : Edge (walked graph) = graph.Edge := by
  funext v w
  exact propext (graph.mem_successors v w)

/-- The answer is empty on a graph whose only cycles are edges from a node to itself,
and on no other cyclic graph. -/
theorem verdicts_agree_iff (graph : DiGraph V D E) :
    (findStronglyConnectedComponents (walked graph) = some [] ↔ graph.isDirectedAcyclic = true) ↔
      ((∀ v, ¬ graph.Edge v v) ∨ ∃ v w, v ≠ w ∧ Mutual graph.Edge v w) := by
  rw [answer_nil_iff, edge_walked, DiGraph.isDirectedAcyclic_iff, Mutual.acyclic_iff]
  constructor
  · intro agree
    by_cases alone : ∀ v ∈ (walked graph).nodes, ∀ w, Mutual graph.Edge v w → v = w
    · exact .inl (agree.mp alone).1
    · simp only [not_forall, exists_prop] at alone
      obtain ⟨v, _, w, both, differ⟩ := alone
      exact .inr ⟨v, w, differ, both⟩
  · rintro (noLoop | ⟨v, w, differ, both⟩)
    · constructor
      · intro alone
        refine ⟨noLoop, fun v w both => ?_⟩
        obtain same | ⟨u, edge, _⟩ := ReflTransGen.cases_head both.1
        · exact same
        · exact alone v (graph.closed v u edge).1 w both
      · exact fun acyclic v _ w both => acyclic.2 v w both
    · refine iff_of_false (fun alone => ?_) (fun acyclic => differ (acyclic.2 v w both))
      obtain same | ⟨u, edge, _⟩ := ReflTransGen.cases_head both.1
      · exact differ same
      · exact differ (alone v (graph.closed v u edge).1 w both)

end Verdicts

def selfLoop : DiGraph String Unit Unit where
  nodes := ⟨[("task", ())], by decide⟩
  edges := ⟨[(("task", "task"), ())], by decide⟩
  closed := by
    intro u v mem
    cases List.mem_singleton.mp mem
    exact ⟨List.mem_singleton.mpr rfl, List.mem_singleton.mpr rfl⟩

theorem self_loop_unreported :
    ¬ (findStronglyConnectedComponents (walked selfLoop) = some [] ↔
      selfLoop.isDirectedAcyclic = true) := by
  intro agree
  exact absurd (agree.mp (by decide +kernel)) (by decide +kernel)

end KuvaAI.TarjanCycleDetector
