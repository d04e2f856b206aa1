import KuvaAI.Lib.Dict
import Mathlib.Data.Sym.Sym2

/-! Undirected graphs with data on nodes and edges, kept in the order in which they
were added. A graph carries the proof that its edges join nodes of it. -/

structure UndirectedGraph (V D E : Type) where
  nodes : Dict V D
  edges : Dict (Sym2 V) E
  closed : ∀ e ∈ edges.keys, ∀ v ∈ e, v ∈ nodes.keys

namespace UndirectedGraph

variable {V D E : Type} [DecidableEq V]

def empty : UndirectedGraph V D E :=
  ⟨Dict.empty, Dict.empty, fun _ mem => (List.not_mem_nil mem).elim⟩

def addNode (update : Option D → D) (g : UndirectedGraph V D E) (v : V) :
    UndirectedGraph V D E where
  nodes := g.nodes.set v (update (g.nodes.get? v))
  edges := g.edges
  closed := fun e mem a within => (g.nodes.mem_keys_set v a _).mpr (.inr (g.closed e mem a within))

def ensureNode (blank : D) (g : UndirectedGraph V D E) (v : V) : UndirectedGraph V D E :=
  if v ∈ g.nodes.keys then g else g.addNode (fun _ => blank) v

theorem node_ensureNode (blank : D) (g : UndirectedGraph V D E) (v a : V) :
    a ∈ (g.ensureNode blank v).nodes.keys ↔ a = v ∨ a ∈ g.nodes.keys := by
  by_cases node : v ∈ g.nodes.keys
  · rw [ensureNode, if_pos node]
    constructor
    · exact .inr
    · rintro (rfl | old)
      · exact node
      · exact old
  · rw [ensureNode, if_neg node]
    exact g.nodes.mem_keys_set v a _

def addEdge (blank : D) (update : Option E → E) (g : UndirectedGraph V D E) (u v : V) :
    UndirectedGraph V D E where
  nodes := ((g.ensureNode blank u).ensureNode blank v).nodes
  edges := g.edges.set s(u, v) (update (g.edges.get? s(u, v)))
  closed := by
    intro e mem a within
    rw [node_ensureNode, node_ensureNode]
    rcases (g.edges.mem_keys_set s(u, v) e _).mp mem with rfl | old
    · rcases Sym2.mem_iff.mp within with rfl | rfl
      · exact .inr (.inl rfl)
      · exact .inl rfl
    · exact .inr (.inr (g.closed e old a within))

def removeNode (g : UndirectedGraph V D E) (v : V) : UndirectedGraph V D E where
  nodes := g.nodes.erase v
  edges := g.edges.filterKeys (fun e => v ∉ e)
  closed := by
    intro e mem a within
    rw [Dict.mem_keys_filterKeys, decide_eq_true_iff] at mem
    rw [Dict.mem_keys_erase]
    exact ⟨fun same => mem.1 (same ▸ within), g.closed e mem.2 a within⟩

end UndirectedGraph
