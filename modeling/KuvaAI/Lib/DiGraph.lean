import KuvaAI.Lib.CycleSearch
import KuvaAI.Lib.Dict

/-! Directed graphs with data on nodes and edges, kept in the order in which they
were added. A graph carries the proof that its edges join nodes of it. -/

structure DiGraph (V D E : Type) where
  nodes : Dict V D
  edges : Dict (V × V) E
  closed : ∀ u v, (u, v) ∈ edges.keys → u ∈ nodes.keys ∧ v ∈ nodes.keys

namespace DiGraph

variable {V D E : Type} [DecidableEq V]

def empty : DiGraph V D E := ⟨Dict.empty, Dict.empty, fun _ _ mem => (List.not_mem_nil mem).elim⟩

def Edge (g : DiGraph V D E) (u v : V) : Prop := (u, v) ∈ g.edges.keys

instance (g : DiGraph V D E) (u v : V) : Decidable (g.Edge u v) :=
  inferInstanceAs (Decidable ((u, v) ∈ g.edges.keys))

def Node (g : DiGraph V D E) (v : V) : Prop := v ∈ g.nodes.keys

instance (g : DiGraph V D E) (v : V) : Decidable (g.Node v) :=
  inferInstanceAs (Decidable (v ∈ g.nodes.keys))

def predecessors (g : DiGraph V D E) (v : V) : List V :=
  (g.edges.keys.filter (fun e => e.2 = v)).map Prod.fst

def successors (g : DiGraph V D E) (v : V) : List V :=
  (g.edges.keys.filter (fun e => e.1 = v)).map Prod.snd

/-- A node that is there already has its data merged with the new. -/
def addNode (merge : D → D → D) (g : DiGraph V D E) (v : V) (data : D) : DiGraph V D E where
  nodes := g.nodes.set v
    (match g.nodes.get? v with
      | some old => merge old data
      | none => data)
  edges := g.edges
  closed := fun a b mem =>
    ⟨(g.nodes.mem_keys_set v a _).mpr (.inr (g.closed a b mem).1),
      (g.nodes.mem_keys_set v b _).mpr (.inr (g.closed a b mem).2)⟩

def ensureNode (blank : D) (g : DiGraph V D E) (v : V) : DiGraph V D E :=
  if g.Node v then g else addNode (fun old _ => old) g v blank

theorem node_addNode (merge : D → D → D) (g : DiGraph V D E) (v a : V) (data : D) :
    (g.addNode merge v data).Node a ↔ a = v ∨ g.Node a :=
  g.nodes.mem_keys_set v a _

theorem get?_addNode_fresh (merge : D → D → D) (g : DiGraph V D E) {v : V} (fresh : ¬ g.Node v)
    (data : D) (a : V) :
    (g.addNode merge v data).nodes.get? a = if a = v then some data else g.nodes.get? a := by
  have absent : g.nodes.get? v = none := (g.nodes.get?_eq_none_iff v).mpr fresh
  simp only [addNode, absent, Dict.get?_set]

theorem length_addNode (merge : D → D → D) (g : DiGraph V D E) (v : V) (data : D) :
    (g.addNode merge v data).nodes.entries.length =
      if g.Node v then g.nodes.entries.length else g.nodes.entries.length + 1 :=
  g.nodes.length_set v _

theorem ensureNode_of_node (blank : D) {g : DiGraph V D E} {v : V} (node : g.Node v) :
    g.ensureNode blank v = g := by
  rw [ensureNode, if_pos node]

theorem node_ensureNode (blank : D) (g : DiGraph V D E) (v a : V) :
    (g.ensureNode blank v).Node a ↔ a = v ∨ g.Node a := by
  by_cases node : g.Node v
  · rw [ensureNode_of_node blank node]
    constructor
    · exact .inr
    · rintro (rfl | old)
      · exact node
      · exact old
  · rw [ensureNode, if_neg node, node_addNode]

def addEdge (blank : D) (update : Option E → E) (g : DiGraph V D E) (u v : V) :
    DiGraph V D E where
  nodes := ((g.ensureNode blank u).ensureNode blank v).nodes
  edges := g.edges.set (u, v) (update (g.edges.get? (u, v)))
  closed := by
    have kept : ∀ a, a = v ∨ a = u ∨ g.Node a →
        ((g.ensureNode blank u).ensureNode blank v).Node a := by
      intro a node
      rw [node_ensureNode, node_ensureNode]
      exact node
    intro a b mem
    rcases (g.edges.mem_keys_set (u, v) (a, b) _).mp mem with same | old
    · cases same
      exact ⟨kept u (.inr (.inl rfl)), kept v (.inl rfl)⟩
    · exact ⟨kept a (.inr (.inr (g.closed a b old).1)), kept b (.inr (.inr (g.closed a b old).2))⟩

theorem edge_addEdge (blank : D) (update : Option E → E) (g : DiGraph V D E) (u v a b : V) :
    (g.addEdge blank update u v).Edge a b ↔ a = u ∧ b = v ∨ g.Edge a b := by
  rw [Edge, addEdge, Dict.mem_keys_set, Prod.mk.injEq]
  rfl

theorem node_addEdge (blank : D) (update : Option E → E) (g : DiGraph V D E) (u v a : V) :
    (g.addEdge blank update u v).Node a ↔ a = v ∨ a = u ∨ g.Node a :=
  (node_ensureNode blank (g.ensureNode blank u) v a).trans
    (or_congr_right (node_ensureNode blank g u a))

theorem nodes_addEdge (blank : D) (update : Option E → E) {g : DiGraph V D E} {u v : V}
    (nodeU : g.Node u) (nodeV : g.Node v) : (g.addEdge blank update u v).nodes = g.nodes := by
  simp only [addEdge, ensureNode_of_node blank nodeU, ensureNode_of_node blank nodeV]

theorem length_ensureNode_le (blank : D) (g : DiGraph V D E) (v : V) :
    g.nodes.entries.length ≤ (g.ensureNode blank v).nodes.entries.length := by
  unfold ensureNode
  split
  · exact Nat.le_refl _
  · rw [length_addNode]
    split <;> omega

theorem length_addEdge_le (blank : D) (update : Option E → E) (g : DiGraph V D E) (u v : V) :
    g.nodes.entries.length ≤ (g.addEdge blank update u v).nodes.entries.length :=
  (length_ensureNode_le blank g u).trans (length_ensureNode_le blank _ v)

def removeNode (g : DiGraph V D E) (v : V) : DiGraph V D E where
  nodes := g.nodes.erase v
  edges := g.edges.filterKeys (fun e => e.1 ≠ v ∧ e.2 ≠ v)
  closed := by
    intro a b mem
    rw [Dict.mem_keys_filterKeys, decide_eq_true_iff] at mem
    obtain ⟨⟨offA, offB⟩, old⟩ := mem
    rw [Dict.mem_keys_erase, Dict.mem_keys_erase]
    exact ⟨⟨offA, (g.closed a b old).1⟩, offB, (g.closed a b old).2⟩

theorem edge_removeNode (g : DiGraph V D E) (v a b : V) :
    (g.removeNode v).Edge a b ↔ g.Edge a b ∧ a ≠ v ∧ b ≠ v := by
  rw [Edge, removeNode, Dict.mem_keys_filterKeys, decide_eq_true_iff, and_comm]
  rfl

theorem mem_predecessors (g : DiGraph V D E) (u v : V) : u ∈ g.predecessors v ↔ g.Edge u v := by
  rw [predecessors, List.mem_map]
  constructor
  · rintro ⟨⟨a, b⟩, mem, rfl⟩
    rw [List.mem_filter, decide_eq_true_iff] at mem
    obtain ⟨edge, rfl⟩ := mem
    exact edge
  · exact fun edge => ⟨(u, v), List.mem_filter.mpr ⟨edge, decide_eq_true rfl⟩, rfl⟩

theorem mem_successors (g : DiGraph V D E) (u v : V) : v ∈ g.successors u ↔ g.Edge u v := by
  rw [successors, List.mem_map]
  constructor
  · rintro ⟨⟨a, b⟩, mem, rfl⟩
    rw [List.mem_filter, decide_eq_true_iff] at mem
    obtain ⟨edge, rfl⟩ := mem
    exact edge
  · exact fun edge => ⟨(u, v), List.mem_filter.mpr ⟨edge, decide_eq_true rfl⟩, rfl⟩

def isDirectedAcyclic (g : DiGraph V D E) : Bool :=
  match CycleSearch.search g.successors (g.nodes.keys.length + 1) g.nodes.keys with
  | some s => s.cycles.isEmpty
  | none => false

theorem search_cycles (g : DiGraph V D E) :
    ∃ s, CycleSearch.search g.successors (g.nodes.keys.length + 1) g.nodes.keys = some s ∧
      (s.cycles = [] ↔ Acyclic g.Edge) := by
  have within : ∀ v ∈ g.nodes.keys.toFinset, ∀ next ∈ g.successors v,
      next ∈ g.nodes.keys.toFinset := by
    intro v _ next edge
    exact List.mem_toFinset.mpr (g.closed v next ((g.mem_successors v next).mp edge)).2
  have same : CycleSearch.Edge g.successors = g.Edge := by
    funext a b
    exact propext (g.mem_successors a b)
  obtain ⟨s, searched, _, none⟩ := CycleSearch.search_spec g.nodes.keys.toFinset within
    (Nat.lt_succ_of_le (List.toFinset_card_le _)) g.nodes.keys (fun _ mem => List.mem_toFinset.mpr mem)
  refine ⟨s, searched, ?_⟩
  rw [same] at none
  rw [none]
  constructor
  · intro free v cycle
    obtain ⟨w, edge, _⟩ := Relation.TransGen.head'_iff.mp cycle
    exact free v (g.closed v w edge).1 v .refl cycle
  · exact fun acyclic _ _ v _ => acyclic v

theorem isDirectedAcyclic_iff (g : DiGraph V D E) : g.isDirectedAcyclic ↔ Acyclic g.Edge := by
  obtain ⟨s, searched, none⟩ := g.search_cycles
  rw [isDirectedAcyclic, searched, List.isEmpty_iff, none]

end DiGraph
